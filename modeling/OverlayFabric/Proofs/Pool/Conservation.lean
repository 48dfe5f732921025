import OverlayFabric.Proofs.Pool.Run

namespace OverlayFabric.Pool

def Action.owner? : Action → Option String
  | .allocate owner | .release owner | .reserve _ owner => some owner
  | .sync | .releaseId _ => none

/-- The operation works in the scope, with the ranges, for an owner with a name if for any. -/
structure Within (scope : Option String) (ranges : RangeSet) (op : Operation) : Prop where
  scope : op.scope = scope
  ranges : op.ranges = ranges
  named : op.action.owner? ≠ some ""

structure Conserved (pool : Pool) (scope : Option String) (ranges : RangeSet) (rows : List PoolRow) : Prop where
  distinct : pool.Distinct rows
  fit : ∀ row ∈ rows, row.inScope (pool.scopeOf scope) = true → ∃ id : Nat, row.id = id
  present : ∀ id, ranges.contains id = true → ∃ row ∈ rows, row.hasId (pool.scopeOf scope) id = true
  inside : ∀ row ∈ rows, row.isFreeIn (pool.scopeOf scope) = true → covers ranges row = true

variable {pool : Pool} {op : Operation} {ops : List Operation} {scope : Option String}
  {ranges : RangeSet} {rows left : List PoolRow} {row : PoolRow} {id : Nat} {owner : String}

theorem covers_of_hasId {scope : Option String} (has : row.hasId scope id = true) :
    covers ranges row = ranges.contains id := by
  simp [covers, (PoolRow.hasId_iff.mp has).2]

theorem hasId_handOver {scope : Option String} {other : Nat} :
    (handOver scope id owner row).hasId scope other = row.hasId scope other := by
  unfold handOver
  split <;> simp

theorem inScope_handOver {scope place : Option String} :
    (handOver scope id owner row).inScope place = row.inScope place := by
  unfold handOver
  split <;> simp

theorem id_handOver {scope : Option String} : (handOver scope id owner row).id = row.id := by
  unfold handOver
  split
  · exact PoolRow.id_setOwner
  · rfl

theorem handOver_of_isFreeIn {scope place : Option String} (named : owner ≠ "")
    (free : (handOver scope id owner row).isFreeIn place = true) : handOver scope id owner row = row := by
  have unowned := (PoolRow.isFreeIn_iff.mp free).2
  unfold handOver at unowned ⊢
  split at unowned
  · exact absurd unowned named
  · rename_i kept
    rw [if_neg kept]

theorem freed_cases {scope : Option String} {ids : List Nat} {after : PoolRow}
    (given : freed scope ranges ids row = some after) :
    after = row ∨ after = row.setOwner "" ∧ covers ranges row = true := by
  unfold freed at given
  split at given
  · split at given
    · rename_i inside
      cases given
      exact Or.inr ⟨rfl, inside⟩
    · cases given
  · cases given
    exact Or.inl rfl

theorem hasId_fresh (admits : pool.Admits scope) :
    PoolRow.hasId (pool.scopeOf scope) id ⟨pool.scopeOf scope, id, owner⟩ = true :=
  (hasId_iff_key admits).mpr key_ofScope

theorem conserved_of_synced {absent : List Nat} (distinct : pool.Distinct rows) (admits : pool.Admits scope)
    (once : absent.Nodup)
    (missing : ∀ id, id ∈ absent ↔ ranges.contains id = true ∧
      ∀ row ∈ rows, row.hasId (pool.scopeOf scope) id = false)
    (fit : ∀ row ∈ rows, row.inScope (pool.scopeOf scope) = true → ∃ id : Nat, row.id = id) :
    pool.Conserved scope ranges (pool.place
      (rows.filter fun row => !(row.isFreeIn (pool.scopeOf scope) && !covers ranges row))
      (absent.map fun id : Nat => ⟨pool.scopeOf scope, id, ""⟩)) := by
  have effect : Effect pool rows ⟨.free, scope, ranges, .sync⟩ _ := .synced rfl once missing fit
  refine ⟨distinct_of_effect distinct admits effect, ?_, ?_, ?_⟩
  · intro row member here
    rcases mem_place.mp member with kept | new
    · exact fit row (List.mem_of_mem_filter kept) here
    · obtain ⟨id, _, rfl⟩ := List.mem_map.mp new
      exact ⟨id, rfl⟩
  · intro id inside
    by_cases known : ∃ row ∈ rows, row.hasId (pool.scopeOf scope) id = true
    · obtain ⟨row, member, has⟩ := known
      refine ⟨row, mem_place.mpr (Or.inl (List.mem_filter.mpr ⟨member, ?_⟩)), has⟩
      simp [covers_of_hasId has, inside]
    · push Not at known
      have new := (missing id).mpr ⟨inside, fun row member => by simpa using known row member⟩
      exact ⟨_, mem_place.mpr (Or.inr (List.mem_map.mpr ⟨id, new, rfl⟩)), hasId_fresh admits⟩
  · intro row member free
    rcases mem_place.mp member with kept | new
    · simpa [free] using (List.mem_filter.mp kept).2
    · obtain ⟨id, absent, rfl⟩ := List.mem_map.mp new
      exact ((missing id).mp absent).1

theorem conserved_of_effect (conserved : pool.Conserved scope ranges rows) (admits : pool.Admits scope)
    (within : Within scope ranges op) (effect : Effect pool rows op left) :
    pool.Conserved scope ranges left := by
  obtain ⟨rfl, rfl, named⟩ := within
  have distinct := distinct_of_effect conserved.distinct admits effect
  cases effect with
  | none => exact conserved
  | synced asked once missing fit => exact conserved_of_synced conserved.distinct admits once missing fit
  | @handed id owner row asked member has free =>
      have given : owner ≠ "" := by
        rcases asked with action | action <;> simpa [action, Action.owner?] using named
      refine ⟨distinct, ?_, ?_, ?_⟩
      · intro r member here
        obtain ⟨before, known, rfl⟩ := List.mem_map.mp member
        obtain ⟨raw, same⟩ := conserved.fit before known (by simpa [inScope_handOver] using here)
        exact ⟨raw, by rw [id_handOver, same]⟩
      · intro raw inside
        obtain ⟨before, known, has⟩ := conserved.present raw inside
        exact ⟨_, List.mem_map.mpr ⟨before, known, rfl⟩, by rwa [hasId_handOver]⟩
      · intro r member free
        obtain ⟨before, known, rfl⟩ := List.mem_map.mp member
        have same := handOver_of_isFreeIn given free
        rw [same] at free ⊢
        exact conserved.inside before known free
  | @added id owner asked absent =>
      have given : owner ≠ "" := by simpa [asked, Action.owner?] using named
      refine ⟨distinct, ?_, ?_, ?_⟩
      · intro r member here
        rcases mem_place.mp member with known | new
        · exact conserved.fit r known here
        · exact ⟨id, by rw [List.mem_singleton.mp new]⟩
      · intro raw inside
        obtain ⟨row, known, has⟩ := conserved.present raw inside
        exact ⟨row, mem_place.mpr (Or.inl known), has⟩
      · intro r member free
        rcases mem_place.mp member with known | new
        · exact conserved.inside r known free
        · rw [List.mem_singleton.mp new] at free
          exact absurd (PoolRow.isFreeIn_iff.mp free).2 given
  | @freed ids asked =>
      refine ⟨distinct, ?_, ?_, ?_⟩
      · intro r member here
        obtain ⟨before, known, given⟩ := List.mem_filterMap.mp member
        rcases freed_cases given with rfl | ⟨rfl, _⟩
        · exact conserved.fit r known here
        · exact conserved.fit before known (by simpa using here)
      · intro raw inside
        obtain ⟨row, known, has⟩ := conserved.present raw inside
        have stays : covers op.ranges row = true := by rwa [covers_of_hasId has]
        by_cases given : ids.any (row.hasId (pool.scopeOf op.scope) ·) = true
        · refine ⟨row.setOwner "", List.mem_filterMap.mpr ⟨row, known, ?_⟩, by simpa using has⟩
          simp [freed, given, stays]
        · refine ⟨row, List.mem_filterMap.mpr ⟨row, known, ?_⟩, has⟩
          simp [freed, given]
      · intro r member free
        obtain ⟨before, known, given⟩ := List.mem_filterMap.mp member
        rcases freed_cases given with rfl | ⟨rfl, inside⟩
        · exact conserved.inside r known free
        · exact inside

theorem conserved_run (conserved : pool.Conserved scope ranges rows) (admits : pool.Admits scope)
    (within : ∀ op ∈ ops, Within scope ranges op) : pool.Conserved scope ranges (pool.run ops rows) := by
  induction ops generalizing rows with
  | nil => exact conserved
  | cons op rest ih =>
      have here := within op (.head _)
      have admitted : pool.Admits op.scope := by rwa [here.scope]
      have effect := effect_after conserved.distinct admitted
      exact ih (conserved_of_effect conserved admits here effect) fun op member => within op (.tail _ member)

theorem Conserved.nodup_ids (conserved : pool.Conserved scope ranges rows) (admits : pool.Admits scope) :
    ((rows.filter (·.inScope (pool.scopeOf scope))).map (·.id)).Nodup := by
  have keys : ((rows.filter (·.inScope (pool.scopeOf scope))).map (·.id)).map (Prod.mk (pool.scopeOf scope)) =
      (rows.filter (·.inScope (pool.scopeOf scope))).map pool.key := by
    rw [List.map_map]
    refine List.map_congr_left fun row member => ?_
    rw [Function.comp_apply, ← (inScope_iff admits).mp (List.mem_filter.mp member).2]
    rfl
  refine List.Nodup.of_map (Prod.mk (pool.scopeOf scope)) ?_
  rw [keys]
  exact conserved.distinct.sublist (List.filter_sublist.map _)

theorem length_eq_of_ids {ids : List Nat} (differ : (rows.map (·.id)).Nodup) (once : ids.Nodup)
    (same : ∀ id : Int, (∃ row ∈ rows, row.id = id) ↔ ∃ word ∈ ids, (word : Int) = id) :
    rows.length = ids.length := by
  have casts : (ids.map fun word : Nat => (word : Int)).Nodup :=
    once.map fun a b equal => by exact_mod_cast equal
  have perm : (rows.map (·.id)).Perm (ids.map fun word : Nat => (word : Int)) := by
    refine (List.perm_ext_iff_of_nodup differ casts).mpr fun id => ?_
    simpa using same id
  simpa using perm.length_eq

theorem length_eq_countP (keep : PoolRow → Bool) (rows : List PoolRow) :
    rows.length = rows.countP keep + rows.countP fun row => !keep row := by
  simpa using List.length_eq_countP_add_countP keep (l := rows)

theorem Conserved.total (conserved : pool.Conserved scope ranges rows) (admits : pool.Admits scope) :
    (pool.stats scope rows).total = ranges.size +
      (rows.filter (·.inScope (pool.scopeOf scope))).countP fun row => !row.isFree && !covers ranges row := by
  have inside : ((rows.filter (·.inScope (pool.scopeOf scope))).filter (covers ranges)).length =
      ranges.ids.length := by
    refine length_eq_of_ids ?_ ranges.nodup_ids fun id => ⟨?_, ?_⟩
    · exact (conserved.nodup_ids admits).sublist (List.filter_sublist.map _)
    · rintro ⟨row, member, rfl⟩
      obtain ⟨member, inside⟩ := List.mem_filter.mp member
      obtain ⟨member, here⟩ := List.mem_filter.mp member
      obtain ⟨word, named⟩ := conserved.fit row member here
      refine ⟨word, RangeSet.mem_ids.mpr ?_, named.symm⟩
      rwa [← covers_of_hasId (PoolRow.hasId_iff.mpr ⟨here, named⟩)]
    · rintro ⟨word, member, rfl⟩
      have contained := RangeSet.mem_ids.mp member
      obtain ⟨row, member, has⟩ := conserved.present word contained
      have here := (PoolRow.hasId_iff.mp has)
      refine ⟨row, List.mem_filter.mpr ⟨List.mem_filter.mpr ⟨member, here.1⟩, ?_⟩, here.2⟩
      rwa [covers_of_hasId has]
  have outside : (rows.filter (·.inScope (pool.scopeOf scope))).countP (fun row => !covers ranges row) =
      (rows.filter (·.inScope (pool.scopeOf scope))).countP fun row => !row.isFree && !covers ranges row := by
    refine List.countP_congr fun row member => ?_
    obtain ⟨member, here⟩ := List.mem_filter.mp member
    have owned : covers ranges row = false → row.isFree = false := by
      intro outside
      by_contra free
      have := conserved.inside row member (by simpa [PoolRow.isFreeIn, here] using free)
      simp [this] at outside
    cases contained : covers ranges row with
    | true => simp
    | false => simp [owned contained]
  rw [← outside, ← RangeSet.length_ids, ← inside, ← List.countP_eq_length_filter]
  exact length_eq_countP _ _

theorem Conserved.free (conserved : pool.Conserved scope ranges rows) (admits : pool.Admits scope) :
    (pool.stats scope rows).free = ranges.ids.countP fun id : Nat =>
      (rows.filter (·.inScope (pool.scopeOf scope))).all fun row => row.id != id || row.isFree := by
  have unowned : ((rows.filter (·.inScope (pool.scopeOf scope))).filter (·.isFree)).length =
      (ranges.ids.filter fun id : Nat => (rows.filter (·.inScope (pool.scopeOf scope))).all
        fun row => row.id != id || row.isFree).length := by
    refine length_eq_of_ids ?_ (ranges.nodup_ids.filter _) fun id => ⟨?_, ?_⟩
    · exact (conserved.nodup_ids admits).sublist (List.filter_sublist.map _)
    · rintro ⟨row, member, rfl⟩
      obtain ⟨member, free⟩ := List.mem_filter.mp member
      obtain ⟨known, here⟩ := List.mem_filter.mp member
      obtain ⟨word, named⟩ := conserved.fit row known here
      have has := PoolRow.hasId_iff.mpr ⟨here, named⟩
      have contained := conserved.inside row known (by simp [PoolRow.isFreeIn, here, free])
      rw [covers_of_hasId has] at contained
      refine ⟨word, List.mem_filter.mpr ⟨RangeSet.mem_ids.mpr contained, ?_⟩, named.symm⟩
      rw [List.all_eq_true]
      intro other also
      obtain ⟨second, there⟩ := List.mem_filter.mp also
      by_cases same : other.id = word
      · rw [conserved.distinct.eq_of_hasId admits second known (PoolRow.hasId_iff.mpr ⟨there, same⟩) has]
        simp [free]
      · simp [same]
    · rintro ⟨word, member, rfl⟩
      obtain ⟨listed, unowned⟩ := List.mem_filter.mp member
      obtain ⟨row, known, has⟩ := conserved.present word (RangeSet.mem_ids.mp listed)
      obtain ⟨here, named⟩ := PoolRow.hasId_iff.mp has
      have member := List.mem_filter.mpr ⟨known, here⟩
      refine ⟨row, List.mem_filter.mpr ⟨member, ?_⟩, named⟩
      simpa [named] using List.all_eq_true.mp unowned row member
  rw [List.countP_eq_length_filter, ← unowned, ← List.countP_eq_length_filter]
  have parts := length_eq_countP PoolRow.isFree (rows.filter (·.inScope (pool.scopeOf scope)))
  exact Nat.sub_eq_of_eq_add parts

theorem Conserved.exhausted (conserved : pool.Conserved scope ranges rows) (admits : pool.Admits scope)
    (lock : Lock) (unheld : ∀ row ∈ rows, row.isOwnedIn (pool.scopeOf scope) owner = false) :
    (∃ name place, pool.allocate lock scope ranges owner rows = .error (.exhausted name place)) ↔
      ∀ id, ranges.contains id = true →
        ∃ row ∈ rows, row.hasId (pool.scopeOf scope) id = true ∧ row.owner ≠ "" := by
  constructor
  · rintro ⟨name, place, failed⟩ id contained
    have outside := lastFree_eq_none (allocateWithin_eq_exhausted conserved.distinct admits failed)
    obtain ⟨row, member, has⟩ := conserved.present id contained
    refine ⟨row, member, has, fun free => ?_⟩
    have := outside row member (PoolRow.isFreeIn_iff.mpr ⟨(PoolRow.hasId_iff.mp has).1, free⟩)
    rw [(PoolRow.hasId_iff.mp has).2, Int.toNat_natCast, contained] at this
    cases this
  · intro owned
    refine ⟨_, _, allocate_of_exhausted unheld fun row member => ?_⟩
    by_contra free
    rw [Bool.not_eq_false] at free
    obtain ⟨here, unowned⟩ := PoolRow.isFreeIn_iff.mp free
    obtain ⟨id, named⟩ := conserved.fit row member here
    have has := PoolRow.hasId_iff.mpr ⟨here, named⟩
    have contained := conserved.inside row member free
    rw [covers_of_hasId has] at contained
    obtain ⟨other, also, second, taken⟩ := owned id contained
    rw [conserved.distinct.eq_of_hasId admits also member second has] at taken
    exact taken unowned

/-- In every state of a run that starts by bringing the pool in line with its ranges, each identifier
of the ranges has one row, every other row is owned, the counts follow, and the pool is exhausted for
a new owner exactly when every identifier of the ranges is owned. -/
theorem conservation {start : List PoolRow} {lock : Lock} {report : SyncReport}
    (distinct : pool.Distinct start) (admits : pool.Admits scope)
    (synced : pool.sync lock scope ranges start = .ok (report, rows))
    (within : ∀ op ∈ ops, Within scope ranges op) :
    let final := pool.run ops rows
    let here := final.filter (·.inScope (pool.scopeOf scope))
    (here.map (·.id)).Nodup ∧
    (∀ id, ranges.contains id = true → ∃ row ∈ here, row.id = id) ∧
    (∀ row ∈ here, ∃ id : Nat, row.id = id ∧ (ranges.contains id = false → row.owner ≠ "")) ∧
    (pool.stats scope final).total =
      ranges.size + here.countP (fun row => !row.isFree && !covers ranges row) ∧
    (pool.stats scope final).free =
      ranges.ids.countP (fun id : Nat => here.all fun row => row.id != id || row.isFree) ∧
    ∀ lock owner, (∀ row ∈ here, row.owner ≠ owner) →
      ((∃ name place, pool.allocate lock scope ranges owner final = .error (.exhausted name place)) ↔
        ∀ id, ranges.contains id = true → ∃ row ∈ here, row.id = id ∧ row.owner ≠ "") := by
  intro final here
  have conserved : pool.Conserved scope ranges final := by
    obtain ⟨absent, once, missing, fit, rfl⟩ := sync_eq_ok synced
    exact conserved_run (conserved_of_synced distinct admits once missing fit) admits within
  have mem_here {row : PoolRow} : row ∈ here ↔ row ∈ final ∧ row.inScope (pool.scopeOf scope) = true :=
    List.mem_filter
  refine ⟨conserved.nodup_ids admits, ?_, ?_, conserved.total admits, conserved.free admits, ?_⟩
  · intro id contained
    obtain ⟨row, member, has⟩ := conserved.present id contained
    obtain ⟨inside, named⟩ := PoolRow.hasId_iff.mp has
    exact ⟨row, mem_here.mpr ⟨member, inside⟩, named⟩
  · intro row member
    obtain ⟨known, inside⟩ := mem_here.mp member
    obtain ⟨id, named⟩ := conserved.fit row known inside
    refine ⟨id, named, fun outside free => ?_⟩
    have contained := conserved.inside row known (PoolRow.isFreeIn_iff.mpr ⟨inside, free⟩)
    rw [covers_of_hasId (PoolRow.hasId_iff.mpr ⟨inside, named⟩), outside] at contained
    cases contained
  · intro lock owner unheld
    have free : ∀ row ∈ final, row.isOwnedIn (pool.scopeOf scope) owner = false := by
      intro row member
      by_contra held
      rw [Bool.not_eq_false] at held
      obtain ⟨inside, owned⟩ := PoolRow.isOwnedIn_iff.mp held
      exact unheld row (mem_here.mpr ⟨member, inside⟩) owned
    rw [conserved.exhausted admits lock free]
    simp only [mem_here, PoolRow.hasId_iff, and_assoc]

theorem border_conserved :
    let switch := some "10.0.0.1"
    let seven : RangeSet := { ranges := [⟨7, 7, Nat.le_refl 7⟩] }
    let start : List PoolRow := [⟨switch, 5, "a"⟩, ⟨switch, 9, ""⟩]
    let ops : List Operation := [⟨.free, switch, seven, .allocate "b"⟩, ⟨.free, switch, seven, .release "a"⟩]
    ∃ report rows, Pool.borderVlan.sync .free switch seven start = .ok (report, rows) ∧
      ∃ name place, Pool.borderVlan.allocate .free switch seven "c" (Pool.borderVlan.run ops rows) =
        .error (.exhausted name place) := by
  intro switch seven start ops
  have synced : Pool.borderVlan.sync .free switch seven start =
      .ok (⟨1, 1, 1⟩, [⟨switch, 5, "a"⟩, ⟨switch, 7, ""⟩]) := by
    unfold sync
    simp only [missing_eq_filter]
    rfl
  have within : ∀ op ∈ ops, Within switch seven op := by
    simp only [ops, List.forall_mem_cons, List.not_mem_nil, false_implies, implies_true, and_true]
    exact ⟨⟨rfl, rfl, by decide⟩, ⟨rfl, rfl, by decide⟩⟩
  refine ⟨_, _, synced, ?_⟩
  have distinct : Pool.borderVlan.Distinct start := by decide
  obtain ⟨_, _, _, _, _, exhausted⟩ := conservation distinct (fun _ => rfl) synced within
  refine (exhausted .free "c" (by decide)).mpr fun id contained => ?_
  have same : id = 7 := by
    simp [RangeSet.contains, seven, IdRange.contains] at contained
    omega
  subst same
  exact ⟨⟨switch, 7, "b"⟩, by decide, rfl, by decide⟩

end OverlayFabric.Pool
