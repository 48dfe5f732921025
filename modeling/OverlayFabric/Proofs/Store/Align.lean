import OverlayFabric.Proofs.Configuration.Ranges
import OverlayFabric.Proofs.Pool.Isolation
import OverlayFabric.Proofs.Pool.Reconcile

namespace OverlayFabric

namespace Pool

section Scopes

variable {a b name : String} {names rest seen : List String} {rows : List PoolRow}

theorem loop_eraseReps : List.eraseRepsBy.loop (· == ·) a rest seen =
    seen.reverse ++ List.eraseRepsBy.loop (· == ·) a rest [] := by
  induction rest generalizing a seen with
  | nil => simp [List.eraseRepsBy.loop]
  | cons b rest ih =>
      simp only [List.eraseRepsBy.loop]
      split
      · exact ih
      · rw [ih, @ih b [a]]
        simp

theorem eraseReps_cons_cons :
    (a :: b :: rest).eraseReps = if a = b then (b :: rest).eraseReps else a :: (b :: rest).eraseReps := by
  change List.eraseRepsBy.loop (· == ·) a (b :: rest) [] = _
  unfold List.eraseRepsBy.loop
  by_cases same : a = b
  · subst same
    simp only [BEq.rfl, if_true]
    rfl
  · rw [if_neg same, beq_false_of_ne same]
    exact loop_eraseReps

theorem mem_eraseReps : name ∈ names.eraseReps ↔ name ∈ names := by
  induction names with
  | nil => rfl
  | cons a rest ih =>
      cases rest with
      | nil => rfl
      | cons b rest =>
          rw [eraseReps_cons_cons]
          split
          · next same => simp [ih, same]
          · rw [List.mem_cons, ih, ← List.mem_cons]

theorem nodup_eraseReps (sorted : names.Pairwise (· ≤ ·)) : names.eraseReps.Nodup := by
  induction names with
  | nil => exact .nil
  | cons a rest ih =>
      obtain ⟨least, later⟩ := List.pairwise_cons.mp sorted
      cases rest with
      | nil => exact List.nodup_singleton a
      | cons b rest =>
          rw [eraseReps_cons_cons]
          split
          · exact ih later
          · next differ =>
              -- a name that came again later would stand on either side of its neighbour
              refine List.nodup_cons.mpr ⟨fun again => differ ?_, ih later⟩
              refine Std.le_antisymm (least b (.head _)) ?_
              rcases List.mem_cons.mp (mem_eraseReps.mp again) with same | after
              · exact same ▸ Std.le_refl _
              · exact (List.pairwise_cons.mp later).1 a after

theorem mem_scopes : name ∈ borderVlan.scopes rows ↔ BorderPool.rowsOn name rows ≠ [] := by
  change name ∈ ((rows.filterMap (·.scope)).mergeSort (· ≤ ·)).eraseReps ↔ _
  rw [mem_eraseReps, List.mem_mergeSort, List.mem_filterMap, BorderPool.rowsOn, ne_eq, List.filter_eq_nil_iff]
  simp [PoolRow.inScope]

theorem nodup_scopes : (borderVlan.scopes rows).Nodup := by
  have sorted : ((rows.filterMap (·.scope)).mergeSort (· ≤ ·)).Pairwise fun a b : String => decide (a ≤ b) = true :=
    List.pairwise_mergeSort (by simpa using fun a b c => String.le_trans) (by simpa using fun a b => String.le_total a b) _
  exact nodup_eraseReps (sorted.imp of_decide_eq_true)

end Scopes

variable {pool : Pool} {place : Option String} {ranges : RangeSet} {rows before after : List PoolRow} {id : Nat}

namespace Aligned

variable (aligned : Aligned place ranges before after)
include aligned

theorem nodup_ids (once : (before.map (·.id)).Nodup) : (after.map (·.id)).Nodup := by
  have ids : (after.map (·.id)).Perm ((before.filter (!isObsolete ranges ·)).map (·.id) ++
      (fresh place (lacking ranges before)).map (·.id)) := by
    rw [← List.map_append]
    exact List.Perm.map _ aligned
  refine ids.nodup_iff.mpr (List.nodup_append.mpr ⟨once.sublist (List.filter_sublist.map _), ?_, ?_⟩)
  · rw [fresh, List.map_map]
    refine List.Nodup.map (fun a b same => Int.ofNat_inj.mp same) ?_
    exact ranges.nodup_ids.filter _
  · intro known kept new came same
    subst same
    obtain ⟨row, member, rfl⟩ := List.mem_map.mp kept
    obtain ⟨other, added, same⟩ := List.mem_map.mp came
    obtain ⟨id, listed, rfl⟩ := mem_fresh.mp added
    exact (mem_lacking.mp listed).2 row (List.mem_of_mem_filter member) same.symm

end Aligned
end Pool

namespace BorderPool

variable {border : BorderPool} {store : Store} {switch other : String} {switches : List String} {rows after : List PoolRow}

theorem rowsOn_of_rowsOff (differ : other ≠ switch) (same : rowsOff switch after = rowsOff switch rows) :
    rowsOn other after = rowsOn other rows := by
  have away (rows : List PoolRow) : rowsOn other (rowsOff switch rows) = rowsOn other rows := by
    rw [rowsOn, rowsOff, List.filter_filter]
    refine List.filter_congr fun row _ => ?_
    cases on : row.inScope (some other) with
    | false => rfl
    | true =>
        simp only [PoolRow.inScope, beq_iff_eq] at on
        simpa [PoolRow.inScope, on] using differ
  rw [← away after, same, away]

theorem mem_toSync : switch ∈ border.toSync store ↔
    border.ranges.contains switch = true ∨ rowsOn switch store.border ≠ [] := by
  rw [toSync, switches, List.mem_append, List.mem_filter, ← Keyed.contains_iff, Pool.mem_scopes, Bool.not_eq_true']
  cases border.ranges.contains switch <;> simp

theorem nodup_toSync : (border.toSync store).Nodup := by
  refine List.nodup_append.mpr ⟨?_, Pool.nodup_scopes.filter _, ?_⟩
  · exact List.pairwise_map.mpr (border.ranges.sorted.imp fun less same => absurd same (String.ne_of_lt less))
  · intro known configured other left same
    subst same
    have absent := (List.mem_filter.mp left).2
    rw [Keyed.contains_iff.mpr configured] at absent
    cases absent

/-- The table after a pass over the leaves of a list: each of them in line, all others as they were. -/
structure Swept (border : BorderPool) (switches : List String) (rows after : List PoolRow) : Prop where
  aligned : ∀ switch ∈ switches,
    Pool.Aligned (some switch) (border.rangesOf switch) (rowsOn switch rows) (rowsOn switch after)
  elsewhere : ∀ switch, switch ∉ switches → rowsOn switch after = rowsOn switch rows

def tallyOn (border : BorderPool) (rows after : List PoolRow) (switch : String) : SyncReport :=
  Pool.tally (border.rangesOf switch) (rowsOn switch rows) (rowsOn switch after)

def strayOn (border : BorderPool) (rows : List PoolRow) (switch : String) : Nat :=
  (rowsOn switch rows).countP (Pool.isStray (border.rangesOf switch))

theorem run_syncEach (once : switches.Nodup)
    (fit : ∀ switch ∈ switches, ∀ row ∈ rowsOn switch store.border, row.FitsWord) :
    ∃ after, (border.syncEach .free switches).run store =
        (.ok (switches.map fun switch => (switch, border.tallyOn store.border after switch)), { store with border := after }) ∧
      Swept border switches store.border after := by
  induction switches generalizing store with
  | nil => exact ⟨store.border, rfl, by simp, fun _ _ => rfl⟩
  | cons switch rest ih =>
      obtain ⟨new, later⟩ := List.nodup_cons.mp once
      obtain ⟨report, rows, done, reconciled⟩ := @Pool.sync_reconciles .borderVlan (some switch)
        (border.rangesOf switch) store.border (fun _ => rfl) (fit switch (.head _))
      have others : ∀ other, other ≠ switch → rowsOn other rows = rowsOn other store.border :=
        fun other differ => rowsOn_of_rowsOff differ reconciled.elsewhere
      have first : (StoreM.onPool .borderVlan (Pool.borderVlan.sync .free (some switch) (border.rangesOf switch))).run store =
          (.ok report, { store with border := rows }) := by
        rw [StoreM.run_onPool, Store.rows, done]
        rfl
      obtain ⟨after, passed, swept⟩ := @ih { store with border := rows } later fun other member row on => by
        rw [others other fun same => new (same ▸ member)] at on
        exact fit other (.tail _ member) row on
      have settled : rowsOn switch after = rowsOn switch rows := swept.elsewhere switch new
      have tallied : border.tallyOn store.border after switch = report := by
        rw [tallyOn, settled]
        exact reconciled.tallied.symm
      have same : ∀ other ∈ rest, border.tallyOn rows after other = border.tallyOn store.border after other := by
        intro other member
        rw [tallyOn, others other fun same => new (same ▸ member), tallyOn]
      refine ⟨after, ?_, fun other listed => ?_, fun other unlisted => ?_⟩
      · rw [syncEach, StoreM.run_bind_of_run first, StoreM.run_bind_of_run passed, List.map_cons, tallied,
          List.map_congr_left fun other member => congrArg (Prod.mk other) (same other member)]
        rfl
      · rcases List.mem_cons.mp listed with rfl | member
        · rw [settled]
          exact reconciled.aligned
        · rw [← others other fun same => new (same ▸ member)]
          exact swept.aligned other member
      · rw [List.mem_cons, not_or] at unlisted
        rw [swept.elsewhere other unlisted.2, others other unlisted.1]

theorem run_syncEach_of_settled (fit : ∀ switch ∈ switches, ∀ row ∈ rowsOn switch store.border, row.FitsWord)
    (whole : ∀ switch ∈ switches, Pool.lacking (border.rangesOf switch) (rowsOn switch store.border) = [])
    (clean : ∀ switch ∈ switches, ∀ row ∈ rowsOn switch store.border, Pool.isObsolete (border.rangesOf switch) row = false) :
    (border.syncEach .free switches).run store =
      (.ok (switches.map fun switch => (switch, ⟨0, 0, border.strayOn store.border switch⟩)), store) := by
  induction switches with
  | nil => rfl
  | cons switch rest ih =>
      have first : (StoreM.onPool .borderVlan (Pool.borderVlan.sync .free (some switch) (border.rangesOf switch))).run store =
          (.ok ⟨0, 0, border.strayOn store.border switch⟩, store) := by
        rw [StoreM.run_onPool, Store.rows, @Pool.sync_of_settled .borderVlan _ _ _ (fun _ => rfl) (fit switch (.head _))
          (whole switch (.head _)) (clean switch (.head _))]
        rfl
      rw [syncEach, StoreM.run_bind_of_run first, StoreM.run_bind_of_run (ih (fun other member => fit other (.tail _ member))
        (fun other member => whole other (.tail _ member)) fun other member => clean other (.tail _ member))]
      rfl

/-- The rows of a leaf after it was brought in line: each identifier of the ranges and each owned before,
once, with its owner as before and free where it is new. -/
structure InLine (switch : String) (ranges : RangeSet) (before after : List PoolRow) : Prop where
  once : (after.map (·.id)).Nodup
  ids : ∀ id : Nat, (∃ row ∈ after, row.id = id) ↔
    ranges.contains id = true ∨ ∃ row ∈ before, row.id = id ∧ row.owner ≠ ""
  owners : ∀ row ∈ after, row ∈ before ∨ row.owner = "" ∧ ∀ known ∈ before, known.id ≠ row.id
  aligned : Pool.Aligned (some switch) ranges before after

theorem inLine_of_aligned {ranges : RangeSet} {before : List PoolRow} (once : (before.map (·.id)).Nodup)
    (aligned : Pool.Aligned (some switch) ranges before after) : InLine switch ranges before after := by
  refine ⟨aligned.nodup_ids once, fun id => ⟨?_, ?_⟩, fun row member => ?_, aligned⟩
  · rintro ⟨row, member, same⟩
    rcases aligned.mem.mp member with ⟨known, kept⟩ | new
    · cases inside : ranges.contains id with
      | true => exact .inl rfl
      | false =>
          refine .inr ⟨row, known, same, fun free => ?_⟩
          simp [Pool.isObsolete, Pool.covers, PoolRow.isFree, same, inside, free] at kept
    · obtain ⟨other, listed, rfl⟩ := Pool.mem_fresh.mp new
      exact .inl (Int.ofNat_inj.mp same ▸ (Pool.mem_lacking.mp listed).1)
  · rintro (inside | ⟨row, known, same, owned⟩)
    · by_contra none
      push Not at none
      have lacking := Pool.mem_lacking.mpr ⟨inside, none⟩
      rw [aligned.whole] at lacking
      cases lacking
    · exact ⟨row, aligned.mem.mpr (.inl ⟨known, by simp [Pool.isObsolete, PoolRow.isFree, owned]⟩), same⟩
  · rcases aligned.mem.mp member with ⟨known, _⟩ | new
    · exact .inl known
    · obtain ⟨id, listed, rfl⟩ := Pool.mem_fresh.mp new
      exact .inr ⟨rfl, (Pool.mem_lacking.mp listed).2⟩

theorem nodup_ids_on (distinct : Pool.borderVlan.Distinct store.border) :
    ((rowsOn switch store.border).map (·.id)).Nodup := by
  have keys : (rowsOn switch store.border).map Pool.borderVlan.key =
      ((rowsOn switch store.border).map (·.id)).map (Prod.mk (some switch)) := by
    rw [List.map_map]
    refine List.map_congr_left fun row member => ?_
    have here := (@Pool.inScope_iff .borderVlan (some switch) row fun _ => rfl).mp (List.mem_filter.mp member).2
    exact Prod.ext here rfl
  exact (keys ▸ distinct.sublist (List.filter_sublist.map _)).of_map _

theorem rangesOf_of_unconfigured (unconfigured : border.ranges.contains switch ≠ true) : border.rangesOf switch = .empty := by
  unfold Keyed.contains at unconfigured
  rw [rangesOf, Option.not_isSome_iff_eq_none.mp unconfigured, Option.getD_none]

theorem Swept.aligned_of_toSync (swept : Swept border (border.toSync store) store.border rows) :
    Pool.Aligned (some switch) (border.rangesOf switch) (rowsOn switch store.border) (rowsOn switch rows) := by
  by_cases listed : switch ∈ border.toSync store
  · exact swept.aligned switch listed
  · have unlisted := listed
    rw [mem_toSync, not_or, not_ne_iff] at unlisted
    rw [swept.elsewhere switch listed, unlisted.2, rangesOf_of_unconfigured unlisted.1]
    exact .nil

theorem run_sync_of_passed {reports : List (String × SyncReport)}
    (passed : (border.syncEach .free (border.toSync store)).run store = (.ok reports, { store with border := rows })) :
    (border.sync .free).run store = (.ok (.ofList reports), { store with border := rows }) := by
  have asked : (StoreM.read fun store => .ok (border.toSync store)).run store = (.ok (border.toSync store), store) := rfl
  rw [sync, StoreM.run_bind_of_run asked, StoreM.run_bind_of_run passed]
  rfl

/-- Every leaf is brought in line, configured or not, with a report on each that is configured or had rows;
a second time there is nothing to do. -/
theorem every_leaf_reconciled (distinct : Pool.borderVlan.Distinct store.border) (fit : ∀ row ∈ store.border, row.FitsWord)
    (inside : ∀ switch id, (border.rangesOf switch).contains id = true → id ≤ Number.wordLimit) :
    ∃ report rows again,
      (border.sync .free).run store = (.ok report, { store with border := rows }) ∧
      (border.sync .free).run { store with border := rows } = (.ok again, { store with border := rows }) ∧
      ∀ switch,
        InLine switch (border.rangesOf switch) (rowsOn switch store.border) (rowsOn switch rows) ∧
        report.get? switch = (if border.ranges.contains switch = true ∨ rowsOn switch store.border ≠ [] then
          some (border.tallyOn store.border rows switch) else none) ∧
        again.get? switch = (if border.ranges.contains switch = true ∨ rowsOn switch rows ≠ [] then
          some ⟨0, 0, border.strayOn rows switch⟩ else none) ∧
        (report.get? switch).elim 0 (·.stranded) = (again.get? switch).elim 0 (·.stranded) := by
  obtain ⟨rows, passed, swept⟩ := @run_syncEach border store _ nodup_toSync
    fun switch _ row on => fit row (List.mem_of_mem_filter on)
  have aligned : ∀ switch,
      Pool.Aligned (some switch) (border.rangesOf switch) (rowsOn switch store.border) (rowsOn switch rows) :=
    fun switch => swept.aligned_of_toSync
  have settled := @run_syncEach_of_settled border { store with border := rows }
    (border.toSync { store with border := rows })
    (fun switch _ => (aligned switch).fits (inside switch) fun row on => fit row (List.mem_of_mem_filter on))
    (fun switch _ => (aligned switch).whole) fun switch _ => (aligned switch).clean
  refine ⟨_, rows, _, run_sync_of_passed passed, run_sync_of_passed settled, fun switch => ?_⟩
  -- a leaf that one of the passes does not list has no rows in the end, so none that is stranded
  have bare (switch : String) (gone : rowsOn switch rows = []) : border.strayOn rows switch = 0 := by
    rw [strayOn, gone, List.countP_nil]
  refine ⟨inLine_of_aligned (nodup_ids_on distinct) (aligned switch), ?_, ?_, ?_⟩
  · rw [Keyed.get?_ofList]
    simp only [mem_toSync]
  · rw [Keyed.get?_ofList]
    simp only [mem_toSync]
  · rw [Keyed.get?_ofList, Keyed.get?_ofList]
    by_cases before : switch ∈ border.toSync store <;> by_cases after : switch ∈ border.toSync { store with border := rows }
    · rw [if_pos before, if_pos after]
      rfl
    · rw [if_pos before, if_neg after]
      rw [mem_toSync, not_or, not_ne_iff] at after
      exact bare switch after.2
    · rw [if_neg before, if_pos after]
      have same := swept.elsewhere switch before
      rw [mem_toSync, not_or, not_ne_iff] at before
      exact (bare switch (same.trans before.2)).symm
    · rw [if_neg before, if_neg after]

theorem every_leaf_reconciled_after_removal :
    let border : BorderPool :=
      ⟨{ pairs := [("10.0.0.1", { ranges := [⟨100, 101, by decide⟩] })], sorted := List.pairwise_singleton _ _ }⟩
    let rows : List PoolRow := [⟨some "10.0.0.1", 100, "edge"⟩, ⟨some "10.0.0.1", 99, "core"⟩, ⟨some "10.0.0.2", 100, ""⟩,
      ⟨some "10.0.0.3", 100, "core"⟩, ⟨some "10.0.0.3", 101, ""⟩]
    let left : List PoolRow := [⟨some "10.0.0.1", 100, "edge"⟩, ⟨some "10.0.0.1", 99, "core"⟩, ⟨some "10.0.0.3", 100, "core"⟩,
      ⟨some "10.0.0.1", 101, ""⟩]
    ∃ report again,
      (border.sync .free).run { border := rows } = (.ok report, { border := left }) ∧
      report.pairs = [("10.0.0.1", ⟨1, 0, 1⟩), ("10.0.0.2", ⟨0, 1, 0⟩), ("10.0.0.3", ⟨0, 1, 1⟩)] ∧
      (border.sync .free).run { border := left } = (.ok again, { border := left }) ∧
      again.get? "10.0.0.1" = some ⟨0, 0, 1⟩ ∧ again.get? "10.0.0.2" = none ∧ again.get? "10.0.0.3" = some ⟨0, 0, 1⟩ := by
  intro border rows left
  have listed : border.toSync { border := rows } = ["10.0.0.1", "10.0.0.2", "10.0.0.3"] := by
    have ascending : (rows.filterMap (·.scope)).Pairwise fun a b => decide (a ≤ b) = true := by decide +kernel
    have scopes : Pool.borderVlan.scopes rows = (rows.filterMap (·.scope)).eraseReps :=
      congrArg List.eraseReps (List.mergeSort_of_pairwise ascending)
    rw [toSync, scopes]
    decide +kernel
  have passed : (border.syncEach .free ["10.0.0.1", "10.0.0.2", "10.0.0.3"]).run { border := rows } =
      (.ok [("10.0.0.1", ⟨1, 0, 1⟩), ("10.0.0.2", ⟨0, 1, 0⟩), ("10.0.0.3", ⟨0, 1, 1⟩)], { border := left }) := by
    simp only [syncEach]
    unfold Pool.sync
    simp only [Pool.missing_eq_filter]
    decide +kernel
  have first := run_sync_of_passed (listed ▸ passed)
  have inside : ∀ switch id, (border.rangesOf switch).contains id = true → id ≤ Number.wordLimit := by
    intro switch id contained
    have known : border.rangesOf switch = { ranges := [⟨100, 101, by decide⟩] } ∨ border.rangesOf switch = .empty := by
      by_cases same : "10.0.0.1" = switch <;> simp [border, rangesOf, Keyed.get?, findKey?, same]
    rcases known with known | known <;> rw [known] at contained
    · simp only [RangeSet.contains, List.any_cons, List.any_nil, Bool.or_false, IdRange.contains_iff] at contained
      exact Nat.le_trans contained.2 (by decide)
    · cases contained
  obtain ⟨report, after, again, done, twice, each⟩ :=
    @every_leaf_reconciled border { border := rows } (by decide) (by decide) inside
  rw [first] at done
  cases done
  refine ⟨_, again, first, by decide +kernel, twice, ?_, ?_, ?_⟩
  · rw [(each "10.0.0.1").2.2.1]
    decide +kernel
  · rw [(each "10.0.0.2").2.2.1]
    decide +kernel
  · rw [(each "10.0.0.3").2.2.1]
    decide +kernel

end BorderPool

end OverlayFabric
