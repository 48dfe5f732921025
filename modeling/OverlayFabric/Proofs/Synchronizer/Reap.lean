import OverlayFabric.Proofs.Store.Stranded
import OverlayFabric.Proofs.Synchronizer.Attainable

/-!
Reaping drops just the rows that are owned outside the ranges by nobody the cloud knows. Segments go by
their identifiers but VLANs by their owners, so that it matters that on no border leaf anybody owns two.
-/

namespace OverlayFabric

def Outside.census {ω : Type} (outside : Outside ω) (state : ω) : Except CloudError (List String × List String) :=
  match outside.ask .routerIds state with
  | (.ok routers, state) => (outside.ask .networkIds state).1.map fun networks => (routers, networks)
  | (.error e, _) => .error e

/-- The rows of a pool that are stranded; a leaf that is not configured has no ranges. -/
def PoolRanges.strands (ranges : PoolRanges) (routers networks : List String) : Pool → PoolRow → Bool
  | .l2Segment, row => row.isStranded ranges.l2 fun owner => routers.contains owner || networks.contains owner
  | .l3Segment, row => row.isStranded ranges.l3 routers.contains
  | .borderVlan, row => row.isStranded (BorderPool.rangesIn ⟨ranges.border⟩ row.scope) routers.contains

namespace Store

def withoutStranded (store : Store) (ranges : PoolRanges) (routers networks : List String) : Store :=
  { store with
    l2 := store.l2.filter (!ranges.strands routers networks .l2Segment ·)
    l3 := store.l3.filter (!ranges.strands routers networks .l3Segment ·)
    border := store.border.filter (!ranges.strands routers networks .borderVlan ·) }

def strandedOwners (store : Store) (ranges : PoolRanges) (routers networks : List String) : ReapReport where
  l2 := (store.l2.filter (ranges.strands routers networks .l2Segment)).map (·.owner)
  l3 := (store.l3.filter (ranges.strands routers networks .l3Segment)).map (·.owner)
  border := (store.border.filter (ranges.strands routers networks .borderVlan)).map fun row => (row.scope.getD "", row.owner)

variable {store : Store} {ranges : PoolRanges} {routers networks : List String}

theorem strandedOwners_withoutStranded :
    (store.withoutStranded ranges routers networks).strandedOwners ranges routers networks = ⟨[], [], []⟩ := by
  simp [withoutStranded, strandedOwners]

theorem withoutStranded_withoutStranded :
    (store.withoutStranded ranges routers networks).withoutStranded ranges routers networks =
      store.withoutStranded ranges routers networks := by
  simp [withoutStranded]

theorem Tidy.withoutStranded (tidy : store.Tidy) : (store.withoutStranded ranges routers networks).Tidy := by
  refine ⟨fun pool => ?_, tidy.single.filter⟩
  cases pool with
  | l2Segment => exact (tidy.pools .l2Segment).filter
  | l3Segment => exact (tidy.pools .l3Segment).filter
  | borderVlan => exact (tidy.pools .borderVlan).filter

end Store

namespace Synchronizer

variable {ω : Type} {sync : Synchronizer ω} {site : Site ω} {ranges : PoolRanges} {routers networks : List String}
  {known : String → Bool}

def doomsSegment (segments : SegmentPool) (known : String → Bool) (row : SegmentId × String) : Bool :=
  !(segments.inRange row.1 || known row.2)

theorem run_reapSegments (alone : sync.outside.Alone) {segments : SegmentPool} {owned : List (SegmentId × String)} :
    let doomed := owned.filter (doomsSegment segments known)
    (sync.reapSegments segments known owned).run site = (.ok (doomed.map Prod.snd),
      site.withStore (site.store.setRows segments.pool ((site.store.rows segments.pool).filter fun row =>
        !doomed.any fun gone => row.hasId (segments.pool.scopeOf none) gone.1.val))) := by
  -- The owners were read beforehand, the table changes along with them.
  induction owned generalizing site with
  | nil =>
      simp only [List.filter_nil, List.any_nil, Bool.not_false, List.filter_true, Store.setRows_rows]
      rfl
  | cons row rest ih =>
      obtain ⟨id, owner⟩ := row
      unfold reapSegments
      by_cases kept : (segments.inRange id || known owner) = true
      · rw [List.filter_cons_of_neg (by simp [doomsSegment, kept]), if_pos kept]
        exact ih
      · obtain ⟨given, gone⟩ := @SegmentPool.run_releaseId_of_outside segments site.store id (by simp_all)
        rw [List.filter_cons_of_pos (by simp [doomsSegment, kept]), if_neg kept,
          Task.run_bind_of_run (Task.run_store alone gone), Task.run_bind_of_run ih]
        refine Prod.ext rfl (congrArg site.withStore ?_)
        simp only [Site.store_withStore, Store.rows_setRows, Store.setRows_setRows, List.filter_filter, List.any_cons,
          Bool.not_or, Bool.and_comm]

def doomsVlan (border : BorderPool) (known : String → Bool) (row : String × VlanId × String) : Bool :=
  !((border.rangesOf row.1).contains row.2.1.val || known row.2.2)

theorem run_reapBorder (alone : sync.outside.Alone) {owned : List (String × VlanId × String)}
    (sound : Pool.borderVlan.Sound (site.store.rows .borderVlan))
    (outside : ∀ gone ∈ owned.filter (doomsVlan sync.allocators.border known), ∀ row ∈ site.store.rows .borderVlan,
      row.isOwnedIn (some gone.1) gone.2.2 = true → Pool.covers (sync.allocators.border.rangesOf gone.1) row = false) :
    let doomed := owned.filter (doomsVlan sync.allocators.border known)
    (sync.reapBorder known owned).run site = (.ok (doomed.map fun gone => (gone.1, gone.2.2)),
      site.withStore (site.store.setRows .borderVlan ((site.store.rows .borderVlan).filter fun row =>
        !doomed.any fun gone => row.isOwnedIn (some gone.1) gone.2.2))) := by
  induction owned generalizing site with
  | nil =>
      simp only [List.filter_nil, List.any_nil, Bool.not_false, List.filter_true, Store.setRows_rows]
      rfl
  | cons row rest ih =>
      obtain ⟨switch, vlan, owner⟩ := row
      unfold reapBorder
      by_cases kept : ((sync.allocators.border.rangesOf switch).contains vlan.val || known owner) = true
      · rw [List.filter_cons_of_neg (by simp [doomsVlan, kept])] at outside ⊢
        rw [if_pos kept]
        exact ih sound outside
      · rw [List.filter_cons_of_pos (by simp [doomsVlan, kept])] at outside ⊢
        obtain ⟨held, gone⟩ := @BorderPool.run_release_of_outside sync.allocators.border site.store switch owner sound
          (outside _ (.head _))
        -- What is outside the ranges stays so in the table that is left.
        let fewer : Store := site.store.setRows .borderVlan
          ((site.store.rows .borderVlan).filter (!·.isOwnedIn (some switch) owner))
        have rows : fewer.rows .borderVlan = (site.store.rows .borderVlan).filter (!·.isOwnedIn (some switch) owner) :=
          Store.rows_setRows
        have onward := @ih (site.withStore fewer) (show Pool.borderVlan.Sound (fewer.rows _) from rows ▸ sound.filter)
          fun other among row member => outside other (.tail _ among) row (List.mem_of_mem_filter (rows ▸ member))
        rw [if_neg kept, Task.run_bind_of_run (Task.run_store alone gone), Task.run_bind_of_run onward]
        refine Prod.ext rfl (congrArg site.withStore ?_)
        simp only [fewer, Site.store_withStore, Store.rows_setRows, Store.setRows_setRows, List.filter_filter,
          List.any_cons, Bool.not_or, Bool.and_comm]

theorem doomed_segments {segments : SegmentPool} {rows : List PoolRow} (sound : segments.pool.Sound rows) :
    ((rows.filter (!·.isFree)).map fun row => (SegmentPool.segmentOf row, row.owner)).filter (doomsSegment segments known) =
      (rows.filter (·.isStranded segments.ranges known)).map fun row => (SegmentPool.segmentOf row, row.owner) := by
  rw [List.filter_map, List.filter_filter]
  refine congrArg _ (List.filter_congr fun row member => ?_)
  simp only [Function.comp_apply, doomsSegment, SegmentPool.inRange, PoolRow.isStranded, Pool.covers,
    (SegmentPool.segment_of_row sound member).2, Int.toNat_natCast, Bool.and_comm]

theorem run_reapOwned (alone : sync.outside.Alone) {segments : SegmentPool} (unscoped : segments.pool.isScoped = false)
    (sound : segments.pool.Sound (site.store.rows segments.pool)) :
    (Task.store sync.outside (fun _ => segments.owners) >>= sync.reapSegments segments known).run site =
      (.ok (((site.store.rows segments.pool).filter (·.isStranded segments.ranges known)).map (·.owner)),
        site.withStore (site.store.setRows segments.pool
          ((site.store.rows segments.pool).filter (!·.isStranded segments.ranges known)))) := by
  have told : (Task.store sync.outside fun _ => segments.owners).run site = (.ok _, site) :=
    Task.run_store alone (SegmentPool.run_owners sound)
  have admits : segments.pool.Admits none := Pool.admits_of_unscoped unscoped
  have has (other : PoolRow) (known : other ∈ site.store.rows segments.pool) :
      other.hasId (segments.pool.scopeOf none) (SegmentPool.segmentOf other).val = true := by
    rw [PoolRow.hasId_iff, Pool.scopeOf_of_unscoped unscoped]
    exact ⟨rfl, (SegmentPool.segment_of_row sound known).2⟩
  rw [Task.run_bind_of_run told, run_reapSegments alone, doomed_segments sound, List.map_map]
  refine Prod.ext rfl (congrArg site.withStore (congrArg (site.store.setRows segments.pool) ?_))
  refine List.filter_congr fun row member => congrArg not ?_
  rw [List.any_map]
  exact sound.distinct.any_hasId admits has member

theorem doomed_vlans {border : BorderPool} {rows : List PoolRow} (sound : Pool.borderVlan.Sound rows) :
    ((rows.filter (!·.isFree)).map fun row => ((BorderPool.leafOf row).1, (BorderPool.leafOf row).2, row.owner)).filter
        (doomsVlan border known) =
      (rows.filter fun row => row.isStranded (border.rangesIn row.scope) known).map
        fun row => ((BorderPool.leafOf row).1, (BorderPool.leafOf row).2, row.owner) := by
  rw [List.filter_map, List.filter_filter]
  refine congrArg _ (List.filter_congr fun row member => ?_)
  have inside : (border.rangesOf (BorderPool.leafOf row).1).contains (BorderPool.leafOf row).2.val =
      Pool.covers (border.rangesIn row.scope) row :=
    congrArg (border.rangesIn row.scope).contains (BorderPool.vlan_eq_ok.mp (BorderPool.vlan_of_row sound member))
  simp only [Function.comp_apply, doomsVlan, inside, PoolRow.isStranded, Bool.and_comm]

theorem run_reapVlans (alone : sync.outside.Alone) (sound : Pool.borderVlan.Sound (site.store.rows .borderVlan))
    (single : Pool.borderVlan.Single (site.store.rows .borderVlan)) :
    (Task.store sync.outside (fun _ => BorderPool.owners) >>= sync.reapBorder known).run site =
      (.ok (((site.store.rows .borderVlan).filter fun row =>
          row.isStranded (sync.allocators.border.rangesIn row.scope) known).map fun row => (row.scope.getD "", row.owner)),
        site.withStore (site.store.setRows .borderVlan ((site.store.rows .borderVlan).filter fun row =>
          !row.isStranded (sync.allocators.border.rangesIn row.scope) known))) := by
  have told : (Task.store sync.outside fun _ => BorderPool.owners).run site =
      (.ok (((site.store.rows .borderVlan).filter (!·.isFree)).map fun row =>
        ((BorderPool.leafOf row).1, (BorderPool.leafOf row).2, row.owner)), site) :=
    Task.run_store alone (BorderPool.run_owners sound)
  have placed (other : PoolRow) (known : other ∈ site.store.rows .borderVlan) :
      Pool.borderVlan.Admits (some (BorderPool.leafOf other).1) ∧
        other.isOwnedIn (some (BorderPool.leafOf other).1) other.owner = true := by
    have admits : Pool.borderVlan.Admits (some (BorderPool.leafOf other).1) := fun _ => rfl
    have leaf : some (BorderPool.leafOf other).1 = other.scope := congrArg Prod.fst (BorderPool.keyOf_leafOf sound known)
    exact ⟨admits, PoolRow.isOwnedIn_iff.mpr ⟨(Pool.inScope_iff admits).mpr leaf.symm, rfl⟩⟩
  rw [Task.run_bind_of_run told, run_reapBorder alone sound, doomed_vlans sound, List.map_map]
  · refine Prod.ext rfl (congrArg site.withStore (congrArg (site.store.setRows .borderVlan) ?_))
    refine List.filter_congr fun row member => congrArg not ?_
    rw [List.any_map]
    exact single.any_isOwnedIn placed (fun row picked => (PoolRow.isStranded_iff.mp picked).1) member
  · -- Who owns a row to be reaped owns no other on the leaf.
    intro gone among row member owned
    rw [doomed_vlans sound] at among
    obtain ⟨other, picked, rfl⟩ := List.mem_map.mp among
    obtain ⟨there, stranded⟩ := List.mem_filter.mp picked
    obtain ⟨named, outside, _⟩ := PoolRow.isStranded_iff.mp stranded
    obtain ⟨admits, own⟩ := placed other there
    rw [single.eq_of_isOwnedIn admits named member there owned own]
    exact outside

theorem run_askIds (given : sync.outside.census site.outside = .ok (routers, networks)) : ∃ heard state,
    (Task.ask sync.outside .routerIds).run site = (.ok routers, heard) ∧
      (Task.ask sync.outside .networkIds).run heard = (.ok networks, site.heard state) := by
  unfold Outside.census at given
  unfold Task.run Task.ask
  rcases asked : sync.outside.ask .routerIds site.outside with ⟨e | known, first⟩
  · rw [asked] at given
    cases given
  · rw [asked] at given
    obtain ⟨others, told, same⟩ := Result.map_eq_ok.mp given
    cases same
    refine ⟨site.heard first, (sync.outside.ask .networkIds first).2, rfl, ?_⟩
    rcases also : sync.outside.ask .networkIds first with ⟨answer, last⟩
    rw [also] at told
    cases told
    simp only [Site.heard, also]

theorem run_reap (alone : sync.outside.Alone) (served : sync.allocators = .ofRanges ranges) (tidy : site.store.Tidy)
    (given : sync.outside.census site.outside = .ok (routers, networks)) : ∃ state, sync.reap.run site =
      (.ok (site.store.strandedOwners ranges routers networks),
        ⟨site.store.withoutStranded ranges routers networks, site.record, state⟩) := by
  obtain ⟨heard, state, first, second⟩ := run_askIds given
  let l3 : SegmentPool := ⟨.l3Segment, ranges.l3⟩
  let l2 : SegmentPool := ⟨.l2Segment, ranges.l2⟩
  have pools : sync.allocators.l3 = l3 ∧ sync.allocators.l2 = l2 ∧ sync.allocators.border = ⟨ranges.border⟩ := by
    rw [served]
    exact ⟨rfl, rfl, rfl⟩
  have l3Pool : l3.pool.Sound ((site.heard state).store.rows l3.pool) := tidy.pools .l3Segment
  let l3Swept : Site ω := (site.heard state).withStore
    { site.store with l3 := site.store.l3.filter (!ranges.strands routers networks .l3Segment ·) }
  have l3Reaped : (Task.store sync.outside (fun _ => l3.owners) >>= sync.reapSegments l3 routers.contains).run
      (site.heard state) = (.ok (site.store.strandedOwners ranges routers networks).l3, l3Swept) :=
    run_reapOwned alone rfl l3Pool
  have l2Pool : l2.pool.Sound (l3Swept.store.rows l2.pool) := tidy.pools .l2Segment
  let l2Swept : Site ω := l3Swept.withStore
    { l3Swept.store with l2 := site.store.l2.filter (!ranges.strands routers networks .l2Segment ·) }
  have l2Reaped : (Task.store sync.outside (fun _ => l2.owners) >>= sync.reapSegments l2
      fun owner => routers.contains owner || networks.contains owner).run l3Swept =
      (.ok (site.store.strandedOwners ranges routers networks).l2, l2Swept) :=
    run_reapOwned alone rfl l2Pool
  have vlansReaped : (Task.store sync.outside (fun _ => BorderPool.owners) >>= sync.reapBorder routers.contains).run l2Swept =
      (.ok (site.store.strandedOwners ranges routers networks).border,
        l2Swept.withStore (site.store.withoutStranded ranges routers networks)) := by
    have reaped := @run_reapVlans _ sync l2Swept routers.contains alone (tidy.pools .borderVlan) tidy.single
    rw [pools.2.2] at reaped
    exact reaped
  refine ⟨state, ?_⟩
  unfold reap
  rw [Task.run_bind_of_run first, Task.run_bind_of_run second, pools.1, pools.2.1, ← bind_assoc,
    Task.run_bind_of_run l3Reaped, ← bind_assoc, Task.run_bind_of_run l2Reaped, ← bind_assoc,
    Task.run_bind_of_run vlansReaped]
  rfl

theorem run_reap_of_unanswered {e : CloudError} (failed : sync.outside.census site.outside = .error e) :
    ∃ state, sync.reap.run site = (.error (.cloud e), site.heard state) := by
  unfold Outside.census at failed
  rcases asked : sync.outside.ask .routerIds site.outside with ⟨other | known, first⟩
  · rw [asked] at failed
    cases failed
    refine ⟨first, ?_⟩
    unfold reap
    rw [Task.run_bind]
    simp only [Task.run, Task.ask, asked, Site.heard]
  · rcases also : sync.outside.ask .networkIds first with ⟨other | more, last⟩
    · simp only [asked, also] at failed
      cases failed
      refine ⟨last, ?_⟩
      have told : (Task.ask sync.outside .routerIds).run site = (.ok known, site.heard first) := by
        simp only [Task.run, Task.ask, asked, Site.heard]
      unfold reap
      rw [Task.run_bind_of_run told, Task.run_bind]
      simp only [Task.run, Task.ask, also, Site.heard]
    · simp only [asked, also] at failed
      cases failed

/-- Whatever was done to the tables, under whatever ranges they are opened again and whatever routers and
networks the cloud then knows, a reap succeeds, drops just the rows owned outside the ranges by nobody
known, and tells their owners; the next reap finds nothing. Where the cloud does not answer, nothing is
changed. -/
theorem stranded_rows_reaped {configuration : Configuration} {outside : Outside ω} (alone : outside.Alone)
    (attainable : site.store.Attainable) :
    let sync := ofConfiguration configuration ranges outside
    (∀ routers networks, outside.census site.outside = .ok (routers, networks) →
      ∃ reaped, sync.reap.run site = (.ok (site.store.strandedOwners ranges routers networks), reaped) ∧
        reaped.store = site.store.withoutStranded ranges routers networks ∧ reaped.record = site.record ∧
        ∀ later, later.store = reaped.store → outside.census later.outside = .ok (routers, networks) →
          ∃ again, sync.reap.run later = (.ok ⟨[], [], []⟩, again) ∧ again.store = reaped.store) ∧
    ∀ e, outside.census site.outside = .error e →
      ∃ failed, sync.reap.run site = (.error (.cloud e), failed) ∧ failed.store = site.store := by
  intro sync
  refine ⟨fun routers networks given => ?_, fun e failed => ?_⟩
  · obtain ⟨state, done⟩ := @run_reap _ sync site ranges routers networks alone rfl attainable.tidy given
    refine ⟨_, done, rfl, rfl, fun later same still => ?_⟩
    have same : later.store = site.store.withoutStranded ranges routers networks := same
    obtain ⟨last, again⟩ := @run_reap _ sync later ranges routers networks alone rfl
      (same ▸ attainable.tidy.withoutStranded) still
    rw [same, Store.strandedOwners_withoutStranded, Store.withoutStranded_withoutStranded] at again
    exact ⟨_, again, rfl⟩
  · obtain ⟨state, refused⟩ := @run_reap_of_unanswered _ sync site e failed
    exact ⟨_, refused, rfl⟩

theorem stranded_rows_reaped_once_narrowed :
    let sync : Synchronizer Unit :=
      ofConfiguration .bordered .narrow (.small ⟨"inner", "net", "10.1.0.0/24", none⟩ none)
    Store.spent.Attainable ∧ ∃ reaped,
      sync.reap.run ⟨.spent, [], ()⟩ = (.ok ⟨[], ["router"], [("10.0.0.8", "router")]⟩, reaped) ∧
      reaped.store = ⟨[⟨none, 5000, "net"⟩], [], [⟨some "10.0.0.9", 200, "router"⟩], .empty⟩ ∧
      ∃ again, sync.reap.run reaped = (.ok ⟨[], [], []⟩, again) ∧ again.store = reaped.store := by
  intro sync
  have owners : Store.spent.strandedOwners .narrow [] ["net"] = ⟨[], ["router"], [("10.0.0.8", "router")]⟩ := by
    decide +kernel
  have left : Store.spent.withoutStranded .narrow [] ["net"] =
      ⟨[⟨none, 5000, "net"⟩], [], [⟨some "10.0.0.9", 200, "router"⟩], .empty⟩ := by decide +kernel
  have alone : sync.outside.Alone := Outside.alone_small
  obtain ⟨reaping, _⟩ := @stranded_rows_reaped _ ⟨.spent, [], ()⟩ .narrow .bordered _ alone Store.Attainable.spent
  obtain ⟨reaped, done, store, _, further⟩ := reaping [] ["net"] rfl
  obtain ⟨again, next, same⟩ := further reaped rfl rfl
  rw [owners] at done
  exact ⟨.spent, reaped, done, store.trans left, again, next, same⟩

end Synchronizer
end OverlayFabric
