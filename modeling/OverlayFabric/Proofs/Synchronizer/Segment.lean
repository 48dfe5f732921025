import OverlayFabric.Proofs.Synchronizer.Attainable

namespace OverlayFabric

namespace Pool

variable {pool : Pool} {scope : Option String} {ranges : RangeSet} {before after rows : List PoolRow} {row : PoolRow} {id : Nat}

theorem releaseId_of_absent (absent : ∀ row ∈ rows, row.hasId (pool.scopeOf scope) id = false) :
    pool.releaseId .free scope ranges id rows = .ok (false, rows) := by
  have none : rows.any (·.hasId (pool.scopeOf scope) id) = false := by simpa using absent
  unfold releaseId
  rw [none]
  rfl

theorem filterMap_freed_of_others {place : Option String} (others : ∀ row ∈ rows, row.hasId place id = false) :
    rows.filterMap (freed place ranges [id]) = rows := by
  have kept : ∀ row ∈ rows, freed place ranges [id] row = some row :=
    fun row member => freed_of_other (by simpa using others row member)
  rw [List.filterMap_congr kept, List.filterMap_some]

theorem releaseId_of_row (distinct : pool.Distinct (before ++ row :: after)) (admits : pool.Admits scope)
    (has : row.hasId (pool.scopeOf scope) id = true) : pool.releaseId .free scope ranges id (before ++ row :: after) =
      .ok (true, before ++ (if ranges.contains id then [row.setOwner ""] else []) ++ after) := by
  have found : (before ++ row :: after).any (·.hasId (pool.scopeOf scope) id) = true :=
    List.any_eq_true.mpr ⟨row, by simp, has⟩
  obtain ⟨front, back⟩ := List.forall_mem_append.mp (distinct.elsewhere admits has)
  have inside : covers ranges row = ranges.contains id := by rw [covers, (PoolRow.hasId_iff.mp has).2, Int.toNat_natCast]
  have own : freed (pool.scopeOf scope) ranges [id] row = if ranges.contains id then some (row.setOwner "") else none := by
    simp [freed, has, inside]
  unfold releaseId
  rw [found, giveBack_eq, List.filterMap_append, List.filterMap_cons, filterMap_freed_of_others front,
    filterMap_freed_of_others back, own]
  by_cases covered : ranges.contains id = true
  · simp [covered]
  · simp [covered]

end Pool

namespace Synchronizer

variable {ω : Type} {configuration : Configuration} {ranges : PoolRanges} {outside : Outside ω} {site : Site ω}
  {network : String} {segment : SegmentId}

theorem run_releaseSegment : ((ofConfiguration configuration ranges outside).releaseSegment network segment).run site =
    match Pool.l2Segment.releaseId (outside.lock site.outside) none ranges.l2 segment.val site.store.l2 with
    | .ok (released, rows) => (.ok released, { site with store.l2 := rows })
    | .error e => (.error (.ofStore e), site) := by
  simp only [Task.run, releaseSegment, ofConfiguration, Allocators.ofRanges, Task.store, SegmentPool.releaseId,
    StoreM.run_onPool, Store.rows]
  rcases Pool.l2Segment.releaseId (outside.lock site.outside) none ranges.l2 segment.val site.store.l2 with e | ⟨released, rows⟩
  · rfl
  · rfl

theorem hasId_l2 {row : PoolRow} : row.hasId (Pool.l2Segment.scopeOf none) segment.val = true ↔ row.id = (segment.val : Int) := by
  rw [PoolRow.hasId_iff]
  exact and_iff_right rfl

/-- Giving back a segment answers whether there is a row for it, whoever asks: the row is freed or dropped, be it
free, the network's own or that of anybody else, and nothing else changes. -/
theorem segment_released_whoever_owns_it (attainable : site.store.Attainable) :
    let task := (ofConfiguration configuration ranges outside).releaseSegment network segment
    (outside.lock site.outside = .held →
      task.run site = (.error (.store (.database "lock l2_segment_allocations" true)), site)) ∧
    (outside.lock site.outside = .free →
      (∀ before row after, site.store.l2 = before ++ row :: after → row.id = (segment.val : Int) →
        task.run site = (.ok true, { site with store.l2 :=
          before ++ (if ranges.l2.contains segment.val then [{ row with owner := "" }] else []) ++ after })) ∧
      ((∀ row ∈ site.store.l2, row.id ≠ (segment.val : Int)) → task.run site = (.ok false, site))) := by
  intro task
  have ran : task.run site = _ := run_releaseSegment
  have distinct : Pool.l2Segment.Distinct site.store.l2 := (attainable.tidy.pools .l2Segment).distinct
  refine ⟨fun held => ?_, fun free => ⟨fun before row after rows same => ?_, fun absent => ?_⟩⟩
  · rw [ran, held]
    rfl
  · rw [rows] at distinct
    rw [ran, free, rows, Pool.releaseId_of_row distinct (Pool.admits_of_unscoped rfl) (hasId_l2.mpr same)]
    rfl
  · have none : ∀ row ∈ site.store.l2, row.hasId (Pool.l2Segment.scopeOf none) segment.val = false := by
      intro row member
      rw [← Bool.not_eq_true, hasId_l2]
      exact absent row member
    rw [ran, free, Pool.releaseId_of_absent none]

theorem segment_released_by_its_network :
    let sync : Synchronizer Unit := ofConfiguration .bordered .bordered (.small ⟨"inner", "net", "10.1.0.0/24", none⟩ none)
    Store.spent.Attainable ∧ Store.spent.l2 = [⟨none, 5000, "net"⟩] ∧
      (sync.releaseSegment "net" ⟨5000, by decide, by decide⟩).run ⟨.spent, [], ()⟩ =
        (.ok true, ⟨{ Store.spent with l2 := [⟨none, 5000, ""⟩] }, [], ()⟩) := by
  intro sync
  obtain ⟨-, free⟩ := @segment_released_whoever_owns_it _ .bordered .bordered (.small ⟨"inner", "net", "10.1.0.0/24", none⟩ none)
    ⟨.spent, [], ()⟩ "net" ⟨5000, by decide, by decide⟩ .spent
  exact ⟨.spent, rfl, (free rfl).1 [] _ [] rfl rfl⟩

/-- A free segment is released, and so is one that another network has. -/
theorem free_and_foreign_segments_released :
    let sync : Synchronizer Unit := ofConfiguration .bordered .bordered (.small ⟨"inner", "net", "10.1.0.0/24", none⟩ none)
    (Store.bordered.Attainable ∧ Store.bordered.l2 = [⟨none, 5000, ""⟩] ∧
      (sync.releaseSegment "net" ⟨5000, by decide, by decide⟩).run ⟨.bordered, [], ()⟩ = (.ok true, ⟨.bordered, [], ()⟩)) ∧
    Store.spent.Attainable ∧ Store.spent.l2 = [⟨none, 5000, "net"⟩] ∧
      (sync.releaseSegment "other" ⟨5000, by decide, by decide⟩).run ⟨.spent, [], ()⟩ =
        (.ok true, ⟨{ Store.spent with l2 := [⟨none, 5000, ""⟩] }, [], ()⟩) :=
  ⟨⟨Store.Reachable.bordered.attainable, rfl, rfl⟩, .spent, rfl, rfl⟩

end Synchronizer
end OverlayFabric
