import OverlayFabric.Proofs.Store.Allocator

namespace OverlayFabric.Pool

def lacking (ranges : RangeSet) (rows : List PoolRow) : List Nat :=
  ranges.ids.filter fun id => rows.all (·.id != id)

def isObsolete (ranges : RangeSet) (row : PoolRow) : Bool := row.isFree && !covers ranges row

def isStray (ranges : RangeSet) (row : PoolRow) : Bool := !row.isFree && !covers ranges row

def fresh (place : Option String) (ids : List Nat) : List PoolRow := ids.map fun id : Nat => ⟨place, id, ""⟩

/-- Of the rows before, those owned or inside the ranges are left, and a free one for each identifier of
the ranges that had none is new. -/
def Aligned (place : Option String) (ranges : RangeSet) (before after : List PoolRow) : Prop :=
  after.Perm (before.filter (!isObsolete ranges ·) ++ fresh place (lacking ranges before))

def tally (ranges : RangeSet) (before after : List PoolRow) : SyncReport :=
  ⟨after.countP (!before.contains ·), before.countP (!after.contains ·), after.countP (isStray ranges)⟩

def dropFree (place : Option String) (rows : List PoolRow) (ids : List Nat) : List PoolRow :=
  rows.filter fun row => !(row.isFreeIn place && ids.any (row.hasId place ·))

def addFree (pool : Pool) (place : Option String) (rows : List PoolRow) (ids : List Nat) : List PoolRow :=
  pool.place rows (fresh place ids)

variable {pool : Pool} {scope place : Option String} {ranges : RangeSet} {rows before after : List PoolRow}
  {row : PoolRow} {id : Nat}

theorem mem_lacking : id ∈ lacking ranges rows ↔ ranges.contains id = true ∧ ∀ row ∈ rows, row.id ≠ id := by
  simp [lacking, RangeSet.mem_ids]

theorem mem_fresh {ids : List Nat} : row ∈ fresh place ids ↔ ∃ id ∈ ids, row = ⟨place, id, ""⟩ := by
  simp [fresh, eq_comm]

theorem missing_eq_lacking {here : List PoolRow} (fit : ∀ row ∈ here, row.FitsWord) :
    missing ranges (here.map (·.id.toNat)) = lacking ranges here := by
  rw [missing_eq_filter, lacking]
  apply List.filter_congr
  intro id _
  rw [Bool.eq_iff_iff]
  simp only [Bool.not_eq_true', List.contains_eq_mem, decide_eq_false_iff_not, List.mem_map, not_exists, not_and,
    List.all_eq_true, bne_iff_ne]
  refine forall₂_congr fun row member => not_congr ?_
  have := (fit row member).1
  omega

theorem sync_eq (admits : pool.Admits scope)
    (fit : ∀ row ∈ rows.filter (·.inScope (pool.scopeOf scope)), row.FitsWord) :
    let here := rows.filter (·.inScope (pool.scopeOf scope))
    pool.sync .free scope ranges rows =
      .ok (⟨(lacking ranges here).length, here.countP (isObsolete ranges), here.countP (isStray ranges)⟩,
        pool.place (rows.filter fun row => !(row.inScope (pool.scopeOf scope) && isObsolete ranges row))
          (fresh (pool.scopeOf scope) (lacking ranges here))) := by
  intro here
  have words : here.mapM (pool.word ·.id) = .ok (here.map (·.id.toNat)) :=
    Result.mapM_eq_ok fun row member => word_of_fits (fit row member)
  have within : (pool.isScoped && (pool.scopeOf scope).isNone) = false := by
    cases pool <;> cases scope <;> simp_all [Admits, isScoped, scopeOf]
  have obsolete (row : PoolRow) : (row.isFreeIn (pool.scopeOf scope) && !covers ranges row) =
      (row.inScope (pool.scopeOf scope) && isObsolete ranges row) := by
    simp [PoolRow.isFreeIn, isObsolete, Bool.and_assoc]
  have dropped : rows.countP (fun row => row.inScope (pool.scopeOf scope) && isObsolete ranges row) =
      here.countP (isObsolete ranges) := by
    simp only [here, List.countP_filter, Bool.and_comm]
  unfold sync
  simp only [Lock.claim_free, within, Bool.false_and, Bool.false_eq_true, if_false, obsolete, dropped]
  change (here.mapM (pool.word ·.id) >>= _) = _
  rw [words]
  change Except.ok _ = _
  rw [missing_eq_lacking fit]
  rfl

@[simp] theorem place_nil : pool.place rows [] = rows := by
  unfold place
  split <;> simp

theorem isObsolete_fresh (listed : id ∈ lacking ranges rows) : isObsolete ranges ⟨place, id, ""⟩ = false := by
  simp [isObsolete, covers, (mem_lacking.mp listed).1]

theorem sync_of_settled (admits : pool.Admits scope)
    (fit : ∀ row ∈ rows.filter (·.inScope (pool.scopeOf scope)), row.FitsWord)
    (whole : lacking ranges (rows.filter (·.inScope (pool.scopeOf scope))) = [])
    (clean : ∀ row ∈ rows.filter (·.inScope (pool.scopeOf scope)), isObsolete ranges row = false) :
    pool.sync .free scope ranges rows =
      .ok (⟨0, 0, (rows.filter (·.inScope (pool.scopeOf scope))).countP (isStray ranges)⟩, rows) := by
  have kept : rows.filter (fun row => !(row.inScope (pool.scopeOf scope) && isObsolete ranges row)) = rows := by
    refine List.filter_eq_self.mpr fun row member => ?_
    cases here : row.inScope (pool.scopeOf scope) with
    | false => rfl
    | true => simp [clean row (List.mem_filter.mpr ⟨member, here⟩)]
  have none : (rows.filter (·.inScope (pool.scopeOf scope))).countP (isObsolete ranges) = 0 := by
    simpa [List.countP_eq_zero] using clean
  rw [sync_eq admits fit, whole, none, kept, fresh, List.map_nil, place_nil, List.length_nil]

theorem sync_of_misfit (misfit : ∃ row ∈ rows.filter (·.inScope (pool.scopeOf scope)), ¬ row.FitsWord) :
    ∃ row ∈ rows.filter (·.inScope (pool.scopeOf scope)), ¬ row.FitsWord ∧
      pool.sync .free scope ranges rows = .error (.corrupt pool.table s!"id {row.id} does not fit u32") := by
  obtain ⟨bad, listed, misfit⟩ := misfit
  cases read : (rows.filter (·.inScope (pool.scopeOf scope))).mapM (pool.word ·.id) with
  | ok words =>
      obtain ⟨word, fits⟩ := Result.ok_of_mapM read bad listed
      rw [word_of_not_fits misfit] at fits
      cases fits
  | error e =>
      obtain ⟨before, row, after, split, _, failed⟩ := Result.mapM_eq_error.mp read
      have unfit : ¬ row.FitsWord := by
        intro fits
        rw [word_of_fits fits] at failed
        cases failed
      rw [word_of_not_fits unfit] at failed
      cases failed
      refine ⟨row, split ▸ List.mem_append_right _ (.head _), unfit, ?_⟩
      unfold sync
      simp only [Lock.claim_free]
      change ((rows.filter (·.inScope (pool.scopeOf scope))).mapM (pool.word ·.id) >>= _) = _
      rw [read]
      rfl

namespace Aligned

variable (aligned : Aligned place ranges before after)
include aligned

theorem mem : row ∈ after ↔ (row ∈ before ∧ isObsolete ranges row = false) ∨ row ∈ fresh place (lacking ranges before) := by
  rw [List.Perm.mem_iff aligned, List.mem_append, List.mem_filter, Bool.not_eq_true']

theorem fits (inside : ∀ id, ranges.contains id = true → id ≤ Number.wordLimit) (fit : ∀ row ∈ before, row.FitsWord) :
    ∀ row ∈ after, row.FitsWord := by
  intro row member
  rcases aligned.mem.mp member with ⟨known, _⟩ | new
  · exact fit row known
  · obtain ⟨id, listed, rfl⟩ := mem_fresh.mp new
    exact ⟨Int.natCast_nonneg id, Int.ofNat_le.mpr (inside id (mem_lacking.mp listed).1)⟩

theorem clean : ∀ row ∈ after, isObsolete ranges row = false := by
  intro row member
  rcases aligned.mem.mp member with ⟨_, kept⟩ | new
  · exact kept
  · obtain ⟨id, listed, rfl⟩ := mem_fresh.mp new
    exact isObsolete_fresh listed

theorem whole : lacking ranges after = [] := by
  rw [List.eq_nil_iff_forall_not_mem]
  intro id listed
  obtain ⟨inside, none⟩ := mem_lacking.mp listed
  by_cases known : ∃ row ∈ before, row.id = id
  · obtain ⟨row, member, same⟩ := known
    have stays : isObsolete ranges row = false := by simp [isObsolete, covers, same, inside]
    exact none row (aligned.mem.mpr (.inl ⟨member, stays⟩)) same
  · push Not at known
    exact none _ (aligned.mem.mpr (.inr (mem_fresh.mpr ⟨id, mem_lacking.mpr ⟨inside, known⟩, rfl⟩))) rfl

theorem tally_eq : tally ranges before after =
    ⟨(lacking ranges before).length, before.countP (isObsolete ranges), before.countP (isStray ranges)⟩ := by
  have counted (p : PoolRow → Bool) : after.countP p =
      before.countP (fun row => p row && !isObsolete ranges row) + (fresh place (lacking ranges before)).countP p := by
    rw [List.Perm.countP_eq p aligned, List.countP_append, List.countP_filter]
  have came : after.countP (!before.contains ·) = (lacking ranges before).length := by
    have none : before.countP (fun row => !before.contains row && !isObsolete ranges row) = 0 := by
      simp +contextual [List.countP_eq_zero]
    have all : (fresh place (lacking ranges before)).countP (!before.contains ·) = (fresh place (lacking ranges before)).length := by
      refine List.countP_eq_length.mpr fun row new => ?_
      obtain ⟨id, listed, rfl⟩ := mem_fresh.mp new
      simpa using fun known => (mem_lacking.mp listed).2 _ known rfl
    rw [counted, none, all, Nat.zero_add, fresh, List.length_map]
  have went : before.countP (!after.contains ·) = before.countP (isObsolete ranges) := by
    refine List.countP_congr fun row member => ?_
    simp only [Bool.not_eq_true', List.contains_eq_mem, decide_eq_false_iff_not]
    constructor
    · intro gone
      by_contra kept
      exact gone (aligned.mem.mpr (.inl ⟨member, by simpa using kept⟩))
    · intro obsolete stayed
      rw [aligned.clean row stayed] at obsolete
      cases obsolete
  have stray : after.countP (isStray ranges) = before.countP (isStray ranges) := by
    have none : (fresh place (lacking ranges before)).countP (isStray ranges) = 0 := by
      refine List.countP_eq_zero.mpr fun row new => ?_
      obtain ⟨id, _, rfl⟩ := mem_fresh.mp new
      simp [isStray, PoolRow.isFree]
    rw [counted, none, Nat.add_zero]
    refine List.countP_congr fun row _ => ?_
    cases free : row.isFree <;> simp [isStray, isObsolete, free]
  rw [tally, came, went, stray]

end Aligned

section Portions

theorem merge_append {first second : List PoolRow} (rows : List PoolRow)
    (ascending : (first ++ second).Pairwise fun a b => a.id ≤ b.id) :
    rows.merge (first ++ second) (fun a b => a.id ≤ b.id) =
      (rows.merge first fun a b => a.id ≤ b.id).merge second fun a b => a.id ≤ b.id := by
  have cons_merge {row : PoolRow} {rest : List PoolRow} (least : ∀ other ∈ second, row.id ≤ other.id) :
      (row :: rest).merge second (fun a b => a.id ≤ b.id) = row :: rest.merge second fun a b => a.id ≤ b.id := by
    cases second with
    | nil => simp
    | cons other others => exact List.cons_merge_cons_pos _ _ _ (decide_eq_true (least other (.head _)))
  induction rows, first using List.merge.induct (fun a b : PoolRow => a.id ≤ b.id) with
  | case1 first =>
      obtain ⟨_, _, below⟩ := List.pairwise_append.mp ascending
      rw [List.nil_merge, List.nil_merge, List.merge_of_le fun a b former latter => decide_eq_true (below a former b latter)]
  | case2 rows => rw [List.merge_right, List.nil_append]
  | case3 row rest new others before ih =>
      obtain ⟨least, _⟩ := List.pairwise_cons.mp ascending
      rw [List.cons_append, List.cons_merge_cons_pos _ _ _ before, List.cons_merge_cons_pos _ _ _ before, ← List.cons_append,
        ih ascending]
      refine (cons_merge fun other member => ?_).symm
      have := least other (List.mem_append_right _ member)
      have := of_decide_eq_true before
      omega
  | case4 row rest new others after ih =>
      obtain ⟨least, rest⟩ := List.pairwise_cons.mp ascending
      rw [List.cons_append, List.cons_merge_cons_neg _ _ _ after, List.cons_merge_cons_neg _ _ _ after, ih rest]
      exact (cons_merge fun other member => least other (List.mem_append_right _ member)).symm

theorem fresh_append {ids others : List Nat} : fresh place (ids ++ others) = fresh place ids ++ fresh place others :=
  List.map_append

theorem foldl_addFree {portions : List (List Nat)} (ascending : portions.flatten.Pairwise (· < ·)) :
    portions.foldl (pool.addFree place) rows = pool.place rows (fresh place portions.flatten) := by
  induction portions generalizing rows with
  | nil => exact place_nil.symm
  | cons ids rest ih =>
      rw [List.flatten_cons] at ascending ⊢
      rw [List.foldl_cons, ih (List.pairwise_append.mp ascending).2.1, fresh_append]
      unfold addFree Pool.place
      split
      · rw [List.append_assoc]
      · refine (merge_append rows ?_).symm
        rw [← fresh_append, fresh, List.pairwise_map]
        exact ascending.imp fun less => Int.ofNat_le.mpr (Nat.le_of_lt less)

theorem foldl_dropFree {portions : List (List Nat)} :
    portions.foldl (dropFree place) rows = dropFree place rows portions.flatten := by
  induction portions generalizing rows with
  | nil => simp [dropFree]
  | cons ids rest ih =>
      rw [List.foldl_cons, ih, dropFree, dropFree, dropFree, List.filter_filter, List.flatten_cons]
      refine List.filter_congr fun row _ => ?_
      cases free : row.isFreeIn place <;> simp [Bool.and_comm]

theorem dropFree_obsolete (fit : ∀ row ∈ rows.filter (·.inScope place), row.FitsWord) :
    dropFree place rows (((rows.filter (·.inScope place)).filter (isObsolete ranges)).map (·.id.toNat)) =
      rows.filter fun row => !(row.inScope place && isObsolete ranges row) := by
  refine List.filter_congr fun row member => congrArg (!·) ?_
  rw [Bool.eq_iff_iff, Bool.and_eq_true, Bool.and_eq_true, PoolRow.isFreeIn_iff, List.any_eq_true]
  constructor
  · rintro ⟨⟨here, free⟩, id, listed, has⟩
    obtain ⟨other, obsolete, rfl⟩ := List.mem_map.mp listed
    have outside := (List.mem_filter.mp obsolete).2
    refine ⟨here, ?_⟩
    simp only [isObsolete, Bool.and_eq_true, Bool.not_eq_true'] at outside ⊢
    refine ⟨by simp [PoolRow.isFree, free], ?_⟩
    rw [covers, (PoolRow.hasId_iff.mp has).2, Int.toNat_natCast]
    exact outside.2
  · rintro ⟨here, obsolete⟩
    have listed := List.mem_filter.mpr ⟨member, here⟩
    have free : row.owner = "" := by simpa [PoolRow.isFree] using (Bool.and_eq_true_iff.mp obsolete).1
    refine ⟨⟨here, free⟩, row.id.toNat, List.mem_map.mpr ⟨row, List.mem_filter.mpr ⟨listed, obsolete⟩, rfl⟩, ?_⟩
    exact PoolRow.hasId_iff.mpr ⟨here, (Int.toNat_of_nonneg (fit row listed).1).symm⟩

end Portions

theorem inScope_fresh {ids : List Nat} : ∀ row ∈ fresh place ids, row.inScope place = true := by
  intro row new
  obtain ⟨id, _, rfl⟩ := mem_fresh.mp new
  cases place <;> simp [PoolRow.inScope]

theorem aligned_place {here : List PoolRow} (own : here = rows.filter (·.inScope place)) :
    Aligned place ranges here ((pool.place (rows.filter fun row => !(row.inScope place && isObsolete ranges row))
      (fresh place (lacking ranges here))).filter (·.inScope place)) := by
  subst own
  have kept : (rows.filter fun row => !(row.inScope place && isObsolete ranges row)).filter (·.inScope place) =
      (rows.filter (·.inScope place)).filter (!isObsolete ranges ·) := by
    rw [List.filter_filter, List.filter_filter]
    refine List.filter_congr fun row _ => ?_
    cases row.inScope place <;> simp
  refine ((perm_place _).filter _).trans ?_
  rw [List.filter_append, kept, List.filter_eq_self.mpr inScope_fresh]

theorem elsewhere_place {ids : List Nat} :
    (pool.place (rows.filter fun row => !(row.inScope (pool.scopeOf scope) && isObsolete ranges row))
      (fresh (pool.scopeOf scope) ids)).filter (!·.inScope (pool.scopeOf scope)) =
    rows.filter (!·.inScope (pool.scopeOf scope)) := by
  cases apart : pool.isScoped with
  | false => simp [scopeOf, apart, PoolRow.inScope]
  | true =>
      have none : (fresh (pool.scopeOf scope) ids).filter (!·.inScope (pool.scopeOf scope)) = [] := by
        simpa [List.filter_eq_nil_iff] using inScope_fresh
      rw [Pool.place, if_pos apart, List.filter_append, none, List.append_nil, List.filter_filter]
      refine List.filter_congr fun row _ => ?_
      cases row.inScope (pool.scopeOf scope) <;> simp

/-- What bringing a scope in line with the ranges makes of the table, and how it is reported. -/
structure Reconciled (pool : Pool) (scope : Option String) (ranges : RangeSet) (rows after : List PoolRow)
    (report : SyncReport) : Prop where
  aligned : Aligned (pool.scopeOf scope) ranges (rows.filter (·.inScope (pool.scopeOf scope)))
    (after.filter (·.inScope (pool.scopeOf scope)))
  elsewhere : after.filter (!·.inScope (pool.scopeOf scope)) = rows.filter (!·.inScope (pool.scopeOf scope))
  tallied : report = tally ranges (rows.filter (·.inScope (pool.scopeOf scope)))
    (after.filter (·.inScope (pool.scopeOf scope)))
  /-- In whatever portions the obsolete identifiers are dropped and those lacking are added. -/
  portions : ∀ drops adds : List (List Nat),
    drops.flatten = ((rows.filter (·.inScope (pool.scopeOf scope))).filter (isObsolete ranges)).map (·.id.toNat) →
    adds.flatten = lacking ranges (rows.filter (·.inScope (pool.scopeOf scope))) →
    after = adds.foldl (pool.addFree (pool.scopeOf scope)) (drops.foldl (dropFree (pool.scopeOf scope)) rows)

theorem sync_reconciles (admits : pool.Admits scope)
    (fit : ∀ row ∈ rows.filter (·.inScope (pool.scopeOf scope)), row.FitsWord) :
    ∃ report after, pool.sync .free scope ranges rows = .ok (report, after) ∧
      Reconciled pool scope ranges rows after report := by
  refine ⟨_, _, sync_eq admits fit, aligned_place rfl, elsewhere_place, (aligned_place rfl).tally_eq.symm, ?_⟩
  intro drops adds dropped added
  have ascending : adds.flatten.Pairwise (· < ·) := by
    rw [added]
    exact ranges.pairwise_ids.filter _
  rw [foldl_addFree ascending, foldl_dropFree, dropped, added, dropFree_obsolete fit]

theorem Reconciled.again {report : SyncReport} (reconciled : Reconciled pool scope ranges rows after report)
    (admits : pool.Admits scope) (inside : ∀ id, ranges.contains id = true → id ≤ Number.wordLimit)
    (fit : ∀ row ∈ rows.filter (·.inScope (pool.scopeOf scope)), row.FitsWord) :
    pool.sync .free scope ranges after = .ok (⟨0, 0, report.stranded⟩, after) := by
  rw [sync_of_settled admits (reconciled.aligned.fits inside fit) reconciled.aligned.whole reconciled.aligned.clean,
    reconciled.tallied]
  rfl

/-- Bringing a scope in line with its ranges fails on an identifier that fits no word, with the store left
as it was, and otherwise leaves just what the ranges and the owners want, where a second time changes nothing. -/
theorem reconciles {store : Store} (admits : pool.Admits scope)
    (inside : ∀ id, ranges.contains id = true → id ≤ Number.wordLimit) :
    let here := (store.rows pool).filter (·.inScope (pool.scopeOf scope))
    let sync := StoreM.onPool pool (pool.sync .free scope ranges)
    ((∃ row ∈ here, ¬ row.FitsWord) → ∃ row ∈ here, ¬ row.FitsWord ∧
      sync.run store = (.error (.corrupt pool.table s!"id {row.id} does not fit u32"), store)) ∧
    ((∀ row ∈ here, row.FitsWord) → ∃ report after,
      sync.run store = (.ok report, store.setRows pool after) ∧
      Reconciled pool scope ranges (store.rows pool) after report ∧
      sync.run (store.setRows pool after) = (.ok ⟨0, 0, report.stranded⟩, store.setRows pool after)) := by
  intro here sync
  refine ⟨fun misfit => ?_, fun fit => ?_⟩
  · obtain ⟨row, member, unfit, failed⟩ := @sync_of_misfit pool scope ranges _ misfit
    exact ⟨row, member, unfit, by rw [StoreM.run_onPool, failed]⟩
  · obtain ⟨report, after, done, reconciled⟩ := @sync_reconciles pool scope ranges _ admits fit
    refine ⟨report, after, by rw [StoreM.run_onPool, done], reconciled, ?_⟩
    rw [StoreM.run_onPool, Store.rows_setRows, reconciled.again admits inside fit]
    exact congrArg (Prod.mk _) Store.setRows_setRows

theorem reconciles_beside_corrupt_leaf :
    let rows : List PoolRow := [⟨some "10.0.0.1", 5, ""⟩, ⟨some "10.0.0.1", 6, "edge"⟩, ⟨some "10.0.0.2", -1, "core"⟩,
      ⟨some "10.0.0.1", 8, ""⟩]
    let left : List PoolRow := [⟨some "10.0.0.1", 6, "edge"⟩, ⟨some "10.0.0.2", -1, "core"⟩, ⟨some "10.0.0.1", 8, ""⟩,
      ⟨some "10.0.0.1", 9, ""⟩]
    let ranges : RangeSet := { ranges := [⟨8, 9, by decide⟩] }
    let sync (switch : String) := StoreM.onPool .borderVlan (Pool.borderVlan.sync .free (some switch) ranges)
    (sync "10.0.0.2").run { border := rows } =
        (.error (.corrupt "border_vlan_allocations" "id -1 does not fit u32"), { border := rows }) ∧
      (sync "10.0.0.1").run { border := rows } = (.ok ⟨1, 1, 1⟩, { border := left }) ∧
      Reconciled .borderVlan (some "10.0.0.1") ranges rows left ⟨1, 1, 1⟩ ∧
      (sync "10.0.0.1").run { border := left } = (.ok ⟨0, 0, 1⟩, { border := left }) := by
  intro rows left ranges sync
  have inside : ∀ id, ranges.contains id = true → id ≤ Number.wordLimit := by
    intro id contained
    simp only [ranges, RangeSet.contains, List.any_cons, List.any_nil, Bool.or_false, IdRange.contains_iff] at contained
    exact Nat.le_trans contained.2 (by decide)
  have only : rows.filter (·.inScope (Pool.borderVlan.scopeOf (some "10.0.0.2"))) = [⟨some "10.0.0.2", -1, "core"⟩] := by
    decide
  have first : Pool.borderVlan.sync .free (some "10.0.0.1") ranges rows = .ok (⟨1, 1, 1⟩, left) := by
    simp only [Pool.sync, missing_eq_filter]
    rfl
  refine ⟨?_, ?_⟩
  · obtain ⟨row, member, _, failed⟩ :=
      (@reconciles .borderVlan (some "10.0.0.2") ranges { border := rows } (fun _ => rfl) inside).1
        ⟨⟨some "10.0.0.2", -1, "core"⟩, by decide, by decide⟩
    rw [Store.rows, only, List.mem_singleton] at member
    subst member
    exact failed
  · obtain ⟨report, after, done, reconciled, again⟩ :=
      (@reconciles .borderVlan (some "10.0.0.1") ranges { border := rows } (fun _ => rfl) inside).2
        (by decide)
    rw [StoreM.run_onPool, Store.rows, first] at done
    cases done
    exact ⟨by rw [StoreM.run_onPool, Store.rows, first]; rfl, reconciled, again⟩

end OverlayFabric.Pool
