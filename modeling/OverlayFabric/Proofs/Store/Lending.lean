import OverlayFabric.Proofs.Pool.Lending
import OverlayFabric.Proofs.Store.Allocator

namespace OverlayFabric

def PoolRow.toOwned (row : PoolRow) : OwnedRow := ⟨row.scope, row.id.toNat, row.owner⟩

namespace Pool

variable {pool : Pool} {rows : List PoolRow} {scope : Option String} {owner : String}
  {rangesOf : Option String → RangeSet} {keys : List (Option String × Int)}

theorem Sound.word_eq (sound : pool.Sound rows) {row : PoolRow} (member : row ∈ rows) :
    pool.word row.id = .ok row.id.toNat := by
  obtain ⟨id, same, named⟩ := sound.named row member
  rw [same, named.fits, Int.toNat_natCast]

theorem Sound.mapM_word (sound : pool.Sound rows) {keep : PoolRow → Bool} :
    (rows.filter keep).mapM (pool.word ·.id) = .ok ((rows.filter keep).map (·.id.toNat)) :=
  Result.mapM_eq_ok fun _ member => sound.word_eq (List.mem_of_mem_filter member)

theorem Sound.release_eq_ok {ranges : RangeSet} (sound : pool.Sound rows) : ∃ held after,
    pool.release .free scope ranges owner rows = .ok (held, after) ∧ ∀ id ∈ held, pool.Names id := by
  refine ⟨_, _, by unfold release; rw [sound.mapM_word]; rfl, fun id given => ?_⟩
  obtain ⟨row, member, rfl⟩ := List.mem_map.mp given
  obtain ⟨id, same, named⟩ := sound.named row (List.mem_of_mem_filter member)
  rwa [same, Int.toNat_natCast]

theorem Sound.after_release {ranges : RangeSet} (sound : pool.Sound rows) (admits : pool.Admits scope) :
    pool.after rows ⟨.free, scope, ranges, .release owner⟩ =
      rows.filterMap (returned (pool.scopeOf scope) ranges owner) := by
  unfold Pool.after perform
  simp only [sound.distinct.release_eq admits sound.mapM_word]
  rfl

theorem Sound.returned {place : Option String} {ranges : RangeSet} (sound : pool.Sound rows) :
    pool.Sound (rows.filterMap (returned place ranges owner)) := by
  have same (row left : PoolRow) (given : Pool.returned place ranges owner row = some left) : pool.key left = pool.key row := by
    unfold Pool.returned at given
    split at given
    · split at given <;> cases given
      rfl
    · cases given
      rfl
  refine ⟨sound.distinct.filterMap same, fun row member => ?_, fun row member => ?_⟩
  · rcases mem_filterMap_returned.mp member with ⟨known, _⟩ | ⟨held, known, _, _, rfl⟩
    · exact sound.named row known
    · exact sound.named held known
  · rcases mem_filterMap_returned.mp member with ⟨known, _⟩ | ⟨held, known, _, _, rfl⟩
    · exact sound.placed row known
    · exact sound.placed held known

theorem Sound.after_release_lent (sound : pool.Sound rows) (admits : pool.Admits scope)
    (unheld : ∀ row ∈ rows, row.isOwnedIn (pool.scopeOf scope) owner = false) (lendable : pool.Lendable rangesOf keys rows) :
    pool.after (pool.lend keys owner rows) ⟨.free, scope, rangesOf (pool.scopeOf scope), .release owner⟩ =
      pool.lend (keys.filter (·.1 ≠ pool.scopeOf scope)) owner rows := by
  have lent : pool.Sound (pool.lend keys owner rows) := sound.lend
  rw [lent.after_release admits, filterMap_lend admits unheld lendable]

theorem Sound.after_release_of_unheld {ranges : RangeSet} (sound : pool.Sound rows) (admits : pool.Admits scope)
    (unheld : ∀ row ∈ rows, row.isOwnedIn (pool.scopeOf scope) owner = false) :
    pool.after rows ⟨.free, scope, ranges, .release owner⟩ = rows := by
  rw [sound.after_release admits, filterMap_returned_of_unheld unheld]

theorem Sound.after_release_only {ranges : RangeSet} {id : Int} (sound : pool.Sound rows) (unscoped : pool.isScoped = false)
    (unheld : ∀ row ∈ rows, row.owner ≠ owner) (lendable : pool.Lendable (fun _ => ranges) [(none, id)] rows) :
    pool.after (pool.lend [(none, id)] owner rows) ⟨.free, none, ranges, .release owner⟩ = rows := by
  have returned := sound.after_release_lent (@admits_of_unscoped pool none unscoped) (open_to_of_unheld unheld) lendable
  rw [returned, scopeOf_of_unscoped unscoped]
  apply lend_nil

theorem Sound.allocate_cases (sound : pool.Sound rows) (admits : pool.Admits scope) (named : owner ≠ "")
    (unheld : ∀ row ∈ pool.lend keys owner rows, row.isOwnedIn (pool.scopeOf scope) owner = false)
    (lendable : pool.Lendable rangesOf keys rows) :
    (∃ e, pool.allocate .free scope (rangesOf (pool.scopeOf scope)) owner (pool.lend keys owner rows) = .error e) ∨
      ∃ id, pool.Names id ∧ pool.allocate .free scope (rangesOf (pool.scopeOf scope)) owner
        (pool.lend keys owner rows) = .ok (id, pool.lend (keys ++ [(pool.scopeOf scope, (id : Int))]) owner rows) ∧
        pool.Lendable rangesOf (keys ++ [(pool.scopeOf scope, (id : Int))]) rows ∧
        ∃ row ∈ rows, pool.key row = (pool.scopeOf scope, (id : Int)) := by
  cases claimed : pool.allocate .free scope (rangesOf (pool.scopeOf scope)) owner (pool.lend keys owner rows) with
  | error e => exact Or.inl ⟨e, rfl⟩
  | ok answer =>
      obtain ⟨id, after⟩ := answer
      obtain ⟨rfl, row, member, key, free, inside⟩ := allocate_lent sound admits named unheld claimed
      obtain ⟨word, same, valid⟩ := sound.named row member
      have its : row.id = id := congrArg Prod.snd key
      have word_eq : word = id := by exact_mod_cast same.symm.trans its
      refine Or.inr ⟨id, word_eq ▸ valid, rfl, fun other known given => ?_, row, member, key⟩
      rcases List.mem_append.mp given with given | given
      · exact lendable other known given
      · rw [sound.distinct.eq_of_key known member ((List.mem_singleton.mp given).trans key.symm), key]
        refine ⟨free, ?_⟩
        rw [covers, its, Int.toNat_natCast]
        exact inside

theorem Sound.after_allocate_cases {ranges : RangeSet} (sound : pool.Sound rows) (unscoped : pool.isScoped = false) :
    pool.after rows ⟨.free, none, ranges, .allocate owner⟩ = rows ∨
      (∀ row ∈ rows, row.owner ≠ owner) ∧ ∃ id : Nat, pool.Names id ∧
        pool.after rows ⟨.free, none, ranges, .allocate owner⟩ = pool.lend [(none, (id : Int))] owner rows := by
  have admits : pool.Admits none := admits_of_unscoped unscoped
  by_cases held : ∃ row ∈ rows, row.owner = owner
  · left
    obtain ⟨row, member, owned⟩ := held
    apply after_allocate_of_held
    exact ⟨row, member, PoolRow.isOwnedIn_iff.mpr ⟨by simp [scopeOf_of_unscoped unscoped, PoolRow.inScope], owned⟩⟩
  · push Not at held
    unfold Pool.after perform
    simp only
    cases done : pool.allocate .free none ranges owner rows with
    | error e => exact Or.inl rfl
    | ok answer =>
        right
        have named : owner ≠ "" := by
          rcases allocateWithin_eq_ok sound.distinct admits done with ⟨_, row, member, _, owned⟩ | ⟨_, row, member, _, free⟩
          · exact absurd owned (held row member)
          · exact fun empty => held row member (free.trans empty.symm)
        -- A table is itself with nothing lent, and an allocation lends one row of it.
        have lends := done
        rw [← @lend_nil pool owner rows] at lends
        obtain ⟨given, row, member, key, _⟩ := allocate_lent sound admits named
          (open_to_of_unheld (lend_nil.symm ▸ held)) lends
        obtain ⟨id, same, valid⟩ := sound.named row member
        have its : answer.1 = id := Int.ofNat.inj ((congrArg Prod.snd key).symm.trans same)
        rw [scopeOf_of_unscoped unscoped] at given
        exact ⟨held, answer.1, its ▸ valid, given⟩

theorem Names.segment {id : Nat} (named : pool.Names id) : ∃ segment : SegmentId, segment.val = id := by
  have top : pool.highest ≤ 16777215 := by cases pool <;> decide
  exact ⟨⟨id, named.1, Nat.le_trans named.2 top⟩, rfl⟩

theorem Names.vlan {id : Nat} (named : Pool.borderVlan.Names id) : ∃ vlan : VlanId, vlan.val = id :=
  ⟨⟨id, named.1, named.2⟩, rfl⟩

theorem Sound.owned_eq (sound : pool.Sound rows) :
    pool.owned rows = .ok ((rows.filter (!·.isFree)).map PoolRow.toOwned) := by
  refine Result.mapM_eq_ok fun row member => ?_
  rw [sound.word_eq (List.mem_of_mem_filter member)]
  rfl

theorem Sound.find (sound : pool.Sound rows)
    (held : ∃ row ∈ rows, row.isOwnedIn (pool.scopeOf scope) owner = true) :
    ∃ row ∈ rows, row.owner = owner ∧ ∃ segment : SegmentId, row.id = segment.val ∧
      pool.find scope owner rows = .ok (some segment.val) := by
  obtain ⟨row, first⟩ := Option.isSome_iff_exists.mp (List.find?_isSome.mpr held)
  have member := List.mem_of_find?_eq_some first
  obtain ⟨id, same, named⟩ := sound.named row member
  obtain ⟨segment, rfl⟩ := named.segment
  have owned := (PoolRow.isOwnedIn_iff.mp (List.find?_some first)).2
  refine ⟨row, member, owned, segment, same, ?_⟩
  unfold Pool.find
  rw [first]
  simp only [same, named.fits]
  rfl

end Pool

namespace SegmentPool

variable {segments : SegmentPool} {store : Store} {owner : String}

theorem run_of_held (sound : segments.pool.Sound (store.rows segments.pool)) (held : ∃ row ∈ store.rows segments.pool,
      row.isOwnedIn (segments.pool.scopeOf none) owner = true) :
    ∃ row ∈ store.rows segments.pool, row.owner = owner ∧ ∃ segment : SegmentId, row.id = segment.val ∧
      (segments.find owner).run store = (.ok (some segment), store) ∧
      (segments.allocate .free owner).run store = (.ok segment, store) := by
  obtain ⟨row, member, owned, segment, same, found⟩ := sound.find held
  have read : segments.segment segment.val = .ok segment := segment_eq_ok.mpr rfl
  refine ⟨row, member, owned, segment, same, ?_, ?_⟩
  · unfold SegmentPool.find
    rw [StoreM.run_read, found]
    change (Option.mapM segments.segment (some segment.val), store) = _
    rw [Option.mapM_some, read]
    rfl
  · have again : segments.pool.allocate .free none segments.ranges owner (store.rows segments.pool) =
        .ok (segment.val, store.rows segments.pool) := by
      unfold Pool.allocate Pool.allocateAttempts Pool.allocateWithin
      rw [found]
      rfl
    unfold allocate
    rw [StoreM.run_bind, StoreM.run_onPool, again]
    simp only [Store.setRows_rows, StoreM.ofExcept, StoreM.run_read, read]

theorem run_find_of_unheld (unheld : ∀ row ∈ store.rows segments.pool, row.owner ≠ owner) :
    (segments.find owner).run store = (.ok none, store) := by
  unfold SegmentPool.find
  rw [StoreM.run_read, Pool.find_of_not_owned (Pool.open_to_of_unheld unheld)]
  rfl

theorem run_find (unscoped : segments.pool.isScoped = false) (sound : segments.pool.Sound (store.rows segments.pool)) :
    ∃ found, (segments.find owner).run store = (.ok found, store) := by
  by_cases held : ∃ row ∈ store.rows segments.pool, row.owner = owner
  · obtain ⟨row, member, owned⟩ := held
    have here : row.isOwnedIn (segments.pool.scopeOf none) owner = true :=
      PoolRow.isOwnedIn_iff.mpr ⟨by rw [Pool.scopeOf_of_unscoped unscoped]; rfl, owned⟩
    obtain ⟨_, _, _, segment, _, found, _⟩ := run_of_held sound ⟨row, member, here⟩
    exact ⟨some segment, found⟩
  · exact ⟨none, run_find_of_unheld fun row member owned => held ⟨row, member, owned⟩⟩

theorem run_release (sound : segments.pool.Sound (store.rows segments.pool)) : ∃ held,
    (segments.release .free owner).run store =
      (.ok held, store.act segments.pool ⟨.free, none, segments.ranges, .release owner⟩) := by
  obtain ⟨ids, rows, done, named⟩ := @Pool.Sound.release_eq_ok _ _ none owner segments.ranges sound
  have valid (id : Nat) (given : id ∈ ids) : ∃ segment, segments.segment id = .ok segment := by
    obtain ⟨segment, same⟩ := (named id given).segment
    exact ⟨segment, segment_eq_ok.mpr same⟩
  obtain ⟨held, read⟩ := Result.mapM_head?_eq_ok valid
  refine ⟨held, Prod.ext ?_ store_release⟩
  unfold release
  rw [StoreM.run_bind, StoreM.run_onPool, done]
  simp only [StoreM.ofExcept, StoreM.run_read, read]

/-- Whoever has nothing of a pool is refused, or is lent a free row. Nobody is lent rows that nobody has. -/
theorem run_allocate_of_unheld (unscoped : segments.pool.isScoped = false)
    (sound : segments.pool.Sound (store.rows segments.pool)) (unheld : ∀ row ∈ store.rows segments.pool, row.owner ≠ owner) :
    (∃ e, (segments.allocate .free owner).run store = (.error e, store)) ∨
      owner ≠ "" ∧ ∃ segment : SegmentId, (segments.allocate .free owner).run store = (.ok segment,
        store.setRows segments.pool (segments.pool.lend [(none, segment.val)] owner (store.rows segments.pool))) ∧
        segments.pool.Lendable (fun _ => segments.ranges) [(none, segment.val)] (store.rows segments.pool) ∧
        ∃ row ∈ store.rows segments.pool, row.id = segment.val := by
  have unowned : ∀ row ∈ store.rows segments.pool, row.isOwnedIn (segments.pool.scopeOf none) owner = false :=
    Pool.open_to_of_unheld unheld
  unfold allocate
  rw [StoreM.run_bind, StoreM.run_onPool]
  by_cases nameless : owner = ""
  · subst nameless
    rw [Pool.allocate_of_exhausted unowned unowned]
    exact Or.inl ⟨_, rfl⟩
  · have nothing : segments.pool.Lendable (fun _ => segments.ranges) [] (store.rows segments.pool) := by
      simp [Pool.Lendable]
    have cases := sound.allocate_cases (@Pool.admits_of_unscoped segments.pool none unscoped) nameless
      (Pool.lend_nil.symm ▸ unowned) nothing
    rw [Pool.lend_nil, Pool.scopeOf_of_unscoped unscoped] at cases
    rw [Pool.scopeOf_of_unscoped unscoped] at unowned
    rcases cases with ⟨e, refused⟩ | ⟨id, valid, given, lendable, row, member, key⟩
    · rw [refused]
      exact Or.inl ⟨e, rfl⟩
    · obtain ⟨segment, rfl⟩ := valid.segment
      have read : segments.segment segment.val = .ok segment := segment_eq_ok.mpr rfl
      rw [given]
      refine Or.inr ⟨nameless, segment, ?_, lendable, row, member, congrArg Prod.snd key⟩
      simp only [StoreM.ofExcept, StoreM.run_read, read]
      rfl

theorem run_find_lent {rows : List PoolRow} {segment : SegmentId} (unscoped : segments.pool.isScoped = false)
    (sound : segments.pool.Sound rows) (unheld : ∀ row ∈ rows, row.owner ≠ owner) (present : ∃ row ∈ rows, row.id = segment.val)
    (now : store.rows segments.pool = segments.pool.lend [(none, (segment.val : Int))] owner rows) :
    (segments.find owner).run store = (.ok (some segment), store) := by
  obtain ⟨lent, known, same⟩ := present
  have key : segments.pool.key lent = (none, (segment.val : Int)) := Prod.ext (Pool.scopeOf_of_unscoped unscoped) same
  have held : ∃ row ∈ store.rows segments.pool, row.isOwnedIn (segments.pool.scopeOf none) owner = true := by
    refine ⟨lent.setOwner owner, now ▸ Pool.mem_lend.mpr (Or.inr ⟨lent, known, ?_, rfl⟩), ?_⟩
    · rw [key]
      exact .head _
    · exact PoolRow.isOwnedIn_iff.mpr ⟨by rw [Pool.scopeOf_of_unscoped unscoped]; rfl, rfl⟩
  obtain ⟨row, member, owned, found, its, search, _⟩ := run_of_held (now ▸ sound.lend) held
  have only : row.id = segment.val := by
    rcases Pool.mem_lend.mp (now ▸ member) with ⟨before, _⟩ | ⟨before, _, given, rfl⟩
    · exact absurd owned (unheld row before)
    · exact congrArg Prod.snd (List.mem_singleton.mp given)
  rw [search, SegmentId.eq_of_val (Int.ofNat.inj (its.symm.trans only))]

/-- Whoever is given a segment had it before, and nothing changed, or had none and was lent a free row. -/
theorem given_cases {after : Store} {segment : SegmentId} (unscoped : segments.pool.isScoped = false)
    (sound : segments.pool.Sound (store.rows segments.pool))
    (given : (segments.allocate .free owner).run store = (.ok segment, after)) :
    ((segments.find owner).run after).1 = .ok (some segment) ∧
      ((after = store ∧ ∃ row ∈ store.rows segments.pool, row.owner = owner ∧ row.id = segment.val) ∨
        after = store.setRows segments.pool
            (segments.pool.lend [(none, segment.val)] owner (store.rows segments.pool)) ∧
          (∀ row ∈ store.rows segments.pool, row.owner ≠ owner) ∧
          segments.pool.Lendable (fun _ => segments.ranges) [(none, segment.val)] (store.rows segments.pool) ∧
          ∃ row ∈ store.rows segments.pool, row.id = segment.val) := by
  by_cases held : ∃ row ∈ store.rows segments.pool, row.owner = owner
  · obtain ⟨row, member, owned⟩ := held
    have here : row.isOwnedIn (segments.pool.scopeOf none) owner = true :=
      PoolRow.isOwnedIn_iff.mpr ⟨by rw [Pool.scopeOf_of_unscoped unscoped]; rfl, owned⟩
    obtain ⟨own, known, its, _, same, found, again⟩ := run_of_held sound ⟨row, member, here⟩
    cases again.symm.trans given
    exact ⟨congrArg Prod.fst found, Or.inl ⟨rfl, own, known, its, same⟩⟩
  · push Not at held
    rcases run_allocate_of_unheld unscoped sound held with ⟨e, refused⟩ | ⟨_, _, lent, lendable, present⟩
    · cases refused.symm.trans given
    · cases lent.symm.trans given
      refine ⟨?_, Or.inr ⟨rfl, held, lendable, present⟩⟩
      rw [run_find_lent unscoped sound held present Store.rows_setRows]

theorem run_allocate_again {after : Store} {segment : SegmentId} (unscoped : segments.pool.isScoped = false)
    (sound : segments.pool.Sound (store.rows segments.pool))
    (given : (segments.allocate .free owner).run store = (.ok segment, after)) :
    (segments.allocate .free owner).run after = (.ok segment, after) := by
  obtain ⟨found, came⟩ := given_cases unscoped sound given
  have still : segments.pool.Sound (after.rows segments.pool) := by
    rcases came with ⟨rfl, _⟩ | ⟨rfl, _⟩
    · exact sound
    · rw [Store.rows_setRows]
      exact sound.lend
  by_cases held : ∃ row ∈ after.rows segments.pool, row.owner = owner
  · obtain ⟨row, member, owned⟩ := held
    have here : row.isOwnedIn (segments.pool.scopeOf none) owner = true :=
      PoolRow.isOwnedIn_iff.mpr ⟨by rw [Pool.scopeOf_of_unscoped unscoped]; rfl, owned⟩
    obtain ⟨_, _, _, _, _, own, again⟩ := run_of_held still ⟨row, member, here⟩
    rw [own] at found
    cases found
    exact again
  · push Not at held
    rw [run_find_of_unheld held] at found
    cases found

theorem allocate_congr {other : Store} {lock : Lock} (same : other.rows segments.pool = store.rows segments.pool) :
    ((segments.allocate lock owner).run other).1 = ((segments.allocate lock owner).run store).1 := by
  unfold allocate
  rw [StoreM.run_bind, StoreM.run_bind, StoreM.run_onPool, StoreM.run_onPool, same]
  cases segments.pool.allocate lock none segments.ranges owner (store.rows segments.pool) <;> rfl

def segmentOf (row : PoolRow) : SegmentId := (SegmentId.ofNat? row.id.toNat).getD ⟨1, by decide, by decide⟩

theorem segment_of_row {rows : List PoolRow} {row : PoolRow} (sound : segments.pool.Sound rows) (member : row ∈ rows) :
    segments.segment row.id.toNat = .ok (segmentOf row) ∧ row.id = (segmentOf row).val := by
  obtain ⟨id, same, valid⟩ := sound.named row member
  obtain ⟨segment, rfl⟩ := valid.segment
  have word : segments.segment segment.val = .ok segment := segment_eq_ok.mpr rfl
  simp [segmentOf, same, word]

end SegmentPool

namespace BorderPool

variable {border : BorderPool} {store : Store} {switch owner : String} {base : List PoolRow}

def rangesIn (border : BorderPool) (scope : Option String) : RangeSet := border.rangesOf (scope.getD "")

def keyOf (leaf : String × VlanId) : Option String × Int := (some leaf.1, leaf.2.val)

theorem run_release (sound : Pool.borderVlan.Sound store.border) : ∃ held, (border.release .free switch owner).run store =
    (.ok held, store.act .borderVlan ⟨.free, some switch, border.rangesOf switch, .release owner⟩) := by
  obtain ⟨ids, rows, done, named⟩ := @Pool.Sound.release_eq_ok _ _ (some switch) owner (border.rangesOf switch) sound
  have valid (id : Nat) (given : id ∈ ids) : ∃ found, BorderPool.vlan id = .ok found := by
    obtain ⟨vlan, same⟩ := (named id given).vlan
    exact ⟨vlan, vlan_eq_ok.mpr same⟩
  obtain ⟨held, read⟩ := Result.mapM_head?_eq_ok valid
  refine ⟨held, Prod.ext ?_ store_release⟩
  have done : Pool.borderVlan.release .free (some switch) (border.rangesOf switch) owner (store.rows .borderVlan) =
      .ok (ids, rows) := done
  unfold release
  rw [StoreM.run_bind, StoreM.run_onPool, done]
  simp only [StoreM.ofExcept, StoreM.run_read, read]

def Listed (leaves : List (String × VlanId)) (base : List PoolRow) : Prop :=
  ∀ leaf ∈ leaves, ∃ row ∈ base, Pool.borderVlan.key row = keyOf leaf

variable {leaves : List (String × VlanId)}

theorem run_allocate_lent (sound : Pool.borderVlan.Sound base) (named : owner ≠ "")
    (unheld : ∀ row ∈ base, row.owner ≠ owner) (fresh : ∀ leaf ∈ leaves, leaf.1 ≠ switch)
    (lendable : Pool.borderVlan.Lendable border.rangesIn (leaves.map keyOf) base) (listed : Listed leaves base)
    (now : store.border = Pool.borderVlan.lend (leaves.map keyOf) owner base) :
    (∃ e, (border.allocate .free switch owner).run store = (.error e, store)) ∨
      ∃ vlan : VlanId, (border.allocate .free switch owner).run store = (.ok vlan,
        { store with border := Pool.borderVlan.lend ((leaves ++ [(switch, vlan)]).map keyOf) owner base }) ∧
        Pool.borderVlan.Lendable border.rangesIn ((leaves ++ [(switch, vlan)]).map keyOf) base ∧
        Listed (leaves ++ [(switch, vlan)]) base := by
  have admits : Pool.borderVlan.Admits (some switch) := fun _ => rfl
  have open_to : ∀ row ∈ Pool.borderVlan.lend (leaves.map keyOf) owner base,
      row.isOwnedIn (Pool.borderVlan.scopeOf (some switch)) owner = false := by
    intro row member
    rw [← Bool.not_eq_true, PoolRow.isOwnedIn_iff]
    rintro ⟨here, owned⟩
    rcases Pool.mem_lend.mp member with ⟨known, _⟩ | ⟨before, _, given, rfl⟩
    · exact unheld row known owned
    · obtain ⟨leaf, among, key⟩ := List.mem_map.mp given
      have there := (Pool.inScope_iff admits).mp here
      rw [Pool.key_setOwner, ← key] at there
      exact fresh leaf among (Option.some.inj there)
  have cases := sound.allocate_cases admits named open_to lendable
  rw [← now] at cases
  unfold allocate
  rw [StoreM.run_bind, StoreM.run_onPool]
  rcases cases with ⟨e, refused⟩ | ⟨id, valid, given, more, row, member, key⟩
  · have refused : Pool.borderVlan.allocate .free (some switch) (border.rangesOf switch) owner
        (store.rows .borderVlan) = .error e := refused
    rw [refused]
    exact Or.inl ⟨e, rfl⟩
  · obtain ⟨vlan, rfl⟩ := valid.vlan
    have read : BorderPool.vlan vlan.val = .ok vlan := vlan_eq_ok.mpr rfl
    have keys : (leaves ++ [(switch, vlan)]).map keyOf =
        leaves.map keyOf ++ [(Pool.borderVlan.scopeOf (some switch), (vlan.val : Int))] := by
      rw [List.map_append]
      rfl
    rw [← keys] at given more
    have given : Pool.borderVlan.allocate .free (some switch) (border.rangesOf switch) owner
        (store.rows .borderVlan) = .ok (vlan.val, _) := given
    rw [given]
    refine Or.inr ⟨vlan, ?_, more, ?_⟩
    · simp only [StoreM.ofExcept, StoreM.run_read, read]
      rfl
    · intro leaf among
      rcases List.mem_append.mp among with among | among
      · exact listed leaf among
      · rw [List.mem_singleton.mp among]
        exact ⟨row, member, key⟩

theorem holdsBefore_iff {a b : String × VlanId} :
    holdsBefore a b = true ↔ a.1 < b.1 ∨ (a.1 = b.1 ∧ a.2.val ≤ b.2.val) := by
  simp [holdsBefore]

theorem holdsBefore_trans {a b c : String × VlanId} (ab : holdsBefore a b = true) (bc : holdsBefore b c = true) :
    holdsBefore a c = true := by
  rw [holdsBefore_iff] at ab bc ⊢
  rcases ab with ab | ⟨ab, least⟩
  · rcases bc with bc | ⟨bc, _⟩
    · exact Or.inl (String.lt_trans ab bc)
    · exact Or.inl (bc ▸ ab)
  · rcases bc with bc | ⟨bc, most⟩
    · exact Or.inl (ab ▸ bc)
    · exact Or.inr ⟨ab.trans bc, Nat.le_trans least most⟩

theorem holdsBefore_total (a b : String × VlanId) : (holdsBefore a b || holdsBefore b a) = true := by
  rw [Bool.or_eq_true, holdsBefore_iff, holdsBefore_iff]
  rcases Std.lt_trichotomy a.1 b.1 with less | same | more
  · exact Or.inl (Or.inl less)
  · rcases Nat.le_total a.2.val b.2.val with least | most
    · exact Or.inl (Or.inr ⟨same, least⟩)
    · exact Or.inr (Or.inr ⟨same.symm, most⟩)
  · exact Or.inr (Or.inl more)

theorem holdsBefore_antisymm {a b : String × VlanId} (ab : holdsBefore a b = true) (ba : holdsBefore b a = true) :
    a = b := by
  rw [holdsBefore_iff] at ab ba
  rcases ab with ab | ⟨same, least⟩
  · rcases ba with ba | ⟨ba, _⟩
    · exact absurd ba (String.lt_asymm ab)
    · exact absurd ab (ba ▸ String.lt_irrefl _)
  · rcases ba with ba | ⟨_, most⟩
    · exact absurd ba (same ▸ String.lt_irrefl _)
    · exact Prod.ext same (VlanId.ext (Nat.le_antisymm least most))

def leafOf (row : PoolRow) : String × VlanId :=
  (row.scope.getD "", (VlanId.ofNat? row.id.toNat).getD ⟨1, by decide, by decide⟩)

theorem keyOf_leafOf {row : PoolRow} (sound : Pool.borderVlan.Sound base) (member : row ∈ base) :
    keyOf (leafOf row) = Pool.borderVlan.key row := by
  obtain ⟨id, same, valid⟩ := sound.named row member
  obtain ⟨vlan, rfl⟩ := valid.vlan
  obtain ⟨switch, here⟩ := Option.isSome_iff_exists.mp (sound.placed row member rfl)
  simp [keyOf, leafOf, Pool.key, same, here, Pool.scopeOf, Pool.isScoped]

def leavesOf (owner : String) (rows : List PoolRow) : List (String × VlanId) :=
  (rows.filter (·.owner == owner)).map leafOf

theorem filterMap_placed (placed : ∀ row ∈ base, Pool.borderVlan.Admits row.scope) {keep : PoolRow → Bool} :
    ((base.filter keep).map PoolRow.toOwned).filterMap (fun row => row.scope.map fun switch => (switch, row)) =
      (base.filter keep).map fun row => (row.scope.getD "", row.toOwned) := by
  rw [List.filterMap_map, ← List.filterMap_eq_map]
  refine List.filterMap_congr fun row member => ?_
  obtain ⟨switch, here⟩ := Option.isSome_iff_exists.mp (placed row (List.mem_of_mem_filter member) rfl)
  simp [PoolRow.toOwned, here]

theorem filterMap_owned (placed : ∀ row ∈ base, Pool.borderVlan.Admits row.scope) (named : owner ≠ "") :
    (((base.filter (!·.isFree)).map PoolRow.toOwned).filter (·.owner == owner)).filterMap
        (fun row => row.scope.map fun switch => (switch, row)) =
      (base.filter (·.owner == owner)).map fun row => (row.scope.getD "", row.toOwned) := by
  have owned : base.filter (fun row => (((·.owner == owner) ∘ PoolRow.toOwned) row && !row.isFree)) =
      base.filter (·.owner == owner) := by
    refine List.filter_congr fun row _ => ?_
    by_cases own : row.owner = owner
    · simp [PoolRow.toOwned, PoolRow.isFree, own, named]
    · simp [PoolRow.toOwned, own]
  rw [List.filter_map, List.filter_filter, owned, filterMap_placed placed]

theorem vlan_of_row {row : PoolRow} (sound : Pool.borderVlan.Sound base) (member : row ∈ base) :
    vlan row.id.toNat = .ok (leafOf row).2 := by
  obtain ⟨id, same, valid⟩ := sound.named row member
  obtain ⟨vlan, rfl⟩ := valid.vlan
  have word : BorderPool.vlan vlan.val = .ok vlan := vlan_eq_ok.mpr rfl
  simp [leafOf, same, word]

theorem run_heldBy (sound : Pool.borderVlan.Sound store.border) (named : owner ≠ "") :
    (heldBy owner).run store = (.ok ((leavesOf owner store.border).mergeSort holdsBefore), store) := by
  have decoded : ((store.border.filter (·.owner == owner)).map fun row => (row.scope.getD "", row.toOwned)).mapM
      (fun held => (vlan held.2.id).map fun id => (held.1, id)) = .ok (leavesOf owner store.border) := by
    rw [List.mapM_map]
    refine Result.mapM_eq_ok fun row member => ?_
    exact congrArg (Except.map fun id => (row.scope.getD "", id)) (vlan_of_row sound (List.mem_of_mem_filter member))
  unfold heldBy
  rw [StoreM.run_read, sound.owned_eq]
  refine Prod.ext (Result.bind_eq_ok.mpr ⟨_, rfl, Result.bind_eq_ok.mpr ⟨_, ?_, rfl⟩⟩) rfl
  rw [filterMap_owned sound.placed named]
  exact decoded

theorem keyOf_injective {a b : String × VlanId} (same : keyOf a = keyOf b) : a = b := by
  obtain ⟨switch, vlan⟩ := Prod.ext_iff.mp same
  exact Prod.ext (Option.some.inj switch) (VlanId.ext (Int.ofNat.inj vlan))

theorem mem_lent_iff (sound : Pool.borderVlan.Sound base) (unheld : ∀ row ∈ base, row.owner ≠ owner)
    (listed : Listed leaves base) {leaf : String × VlanId} :
    leaf ∈ leavesOf owner (Pool.borderVlan.lend (leaves.map keyOf) owner base) ↔ leaf ∈ leaves := by
  have lent : Pool.borderVlan.Sound (Pool.borderVlan.lend (leaves.map keyOf) owner base) := sound.lend
  constructor
  · intro member
    obtain ⟨row, mine, rfl⟩ := List.mem_map.mp member
    obtain ⟨there, owned⟩ := List.mem_filter.mp mine
    have known := keyOf_leafOf lent there
    rcases Pool.mem_lend.mp there with ⟨before, _⟩ | ⟨before, _, given, rfl⟩
    · exact absurd (beq_iff_eq.mp owned) (unheld row before)
    · obtain ⟨leaf, among, key⟩ := List.mem_map.mp given
      rw [keyOf_injective (known.trans (Pool.key_setOwner.trans key.symm))]
      exact among
  · intro among
    obtain ⟨row, member, key⟩ := listed leaf among
    have given : Pool.borderVlan.key row ∈ leaves.map keyOf := key ▸ List.mem_map_of_mem among
    have there : row.setOwner owner ∈ Pool.borderVlan.lend (leaves.map keyOf) owner base :=
      Pool.mem_lend.mpr (Or.inr ⟨row, member, given, rfl⟩)
    refine List.mem_map.mpr ⟨_, List.mem_filter.mpr ⟨there, by simp [PoolRow.setOwner]⟩, keyOf_injective ?_⟩
    rw [keyOf_leafOf lent there, Pool.key_setOwner, key]

theorem run_heldBy_lent (sound : Pool.borderVlan.Sound base) (named : owner ≠ "")
    (unheld : ∀ row ∈ base, row.owner ≠ owner) (ascending : leaves.Pairwise fun a b => a.1 < b.1)
    (listed : Listed leaves base) (now : store.border = Pool.borderVlan.lend (leaves.map keyOf) owner base) :
    (heldBy owner).run store = (.ok leaves, store) := by
  have lent : Pool.borderVlan.Sound store.border := now ▸ sound.lend
  have once : (leavesOf owner store.border).Nodup := by
    refine List.Nodup.of_map keyOf ?_
    have keys : (leavesOf owner store.border).map keyOf =
        (store.border.filter (·.owner == owner)).map Pool.borderVlan.key := by
      rw [leavesOf, List.map_map]
      exact List.map_congr_left fun row member => keyOf_leafOf lent (List.mem_of_mem_filter member)
    rw [keys]
    exact lent.distinct.sublist (List.filter_sublist.map _)
  have apart : leaves.Nodup := (List.pairwise_map.mpr ascending).nodup.of_map Prod.fst
  -- Both lists have the same leaves, none twice, and both are in order.
  have perm : ((leavesOf owner store.border).mergeSort holdsBefore).Perm leaves := by
    refine (List.mergeSort_perm _ _).trans ((List.perm_ext_iff_of_nodup once apart).mpr fun leaf => ?_)
    rw [now]
    exact mem_lent_iff sound unheld listed
  have sorted : ((leavesOf owner store.border).mergeSort holdsBefore).Pairwise
      fun a b => holdsBefore a b = true :=
    List.pairwise_mergeSort (fun a b c => @holdsBefore_trans a b c) holdsBefore_total _
  have ordered : leaves.Pairwise fun a b => holdsBefore a b = true :=
    ascending.imp fun less => holdsBefore_iff.mpr (Or.inl less)
  rw [run_heldBy lent named, perm.eq_of_pairwise (fun _ _ _ _ => holdsBefore_antisymm) sorted ordered]

theorem run_heldBy_of_unheld (sound : Pool.borderVlan.Sound store.border) (unheld : ∀ row ∈ store.border, row.owner ≠ owner) :
    (heldBy owner).run store = (.ok [], store) := by
  have nothing : (((store.border.filter (!·.isFree)).map PoolRow.toOwned).filter (·.owner == owner)) = [] := by
    refine List.filter_eq_nil_iff.mpr fun held among => ?_
    obtain ⟨row, member, rfl⟩ := List.mem_map.mp among
    rw [beq_iff_eq]
    exact unheld row (List.mem_of_mem_filter member)
  unfold heldBy
  rw [StoreM.run_read, sound.owned_eq]
  simp only [bind, Except.bind, nothing, List.filterMap_nil, List.mapM_nil, pure, Except.pure, List.mergeSort_nil]

end BorderPool
end OverlayFabric
