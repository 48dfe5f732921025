import OverlayFabric.Proofs.Synchronizer.Attainable
import OverlayFabric.Proofs.Synchronizer.Withdraw

namespace OverlayFabric

namespace Pool

/-- What becomes of a row when its owner, or somebody else, gives back all it holds in every scope. -/
def relinquished (rangesOf : Option String → RangeSet) (owner : String) (row : PoolRow) : Option PoolRow :=
  if row.owner = owner then
    if covers (rangesOf row.scope) row then some (row.setOwner "") else none
  else some row

/-- The owner gave back all it held: what the ranges cover is free, there is nothing else of it, and every other
row is in its place. -/
structure Relinquished (pool : Pool) (rangesOf : Option String → RangeSet) (owner : String) (before after : List PoolRow) :
    Prop where
  rows : after = before.filterMap (relinquished rangesOf owner)
  unheld : ∀ row ∈ after, row.owner ≠ owner
  freed : ∀ row ∈ before, row.owner = owner → covers (rangesOf row.scope) row = true → row.setOwner "" ∈ after
  dropped : ∀ row ∈ before, row.owner = owner → covers (rangesOf row.scope) row = false →
    ∀ other ∈ after, pool.key other ≠ pool.key row

variable {pool : Pool} {rangesOf : Option String → RangeSet} {owner : String} {rows : List PoolRow} {row : PoolRow}

theorem relinquished_of_other (other : row.owner ≠ owner) : relinquished rangesOf owner row = some row := if_neg other

theorem filterMap_relinquished_of_unheld (unheld : ∀ row ∈ rows, row.owner ≠ owner) :
    rows.filterMap (relinquished rangesOf owner) = rows := by
  rw [List.filterMap_congr fun row member => relinquished_of_other (unheld row member), List.filterMap_some]

theorem returned_everywhere {ranges : RangeSet} : returned none ranges owner = relinquished (fun _ => ranges) owner := by
  funext row
  simp [returned, relinquished, PoolRow.isOwnedIn, PoolRow.inScope]

theorem filterMap_returned_relinquished {switch : String} (named : owner ≠ "") :
    (rows.filterMap (returned (some switch) (rangesOf (some switch)) owner)).filterMap (relinquished rangesOf owner) =
      rows.filterMap (relinquished rangesOf owner) := by
  rw [List.filterMap_filterMap]
  refine List.filterMap_congr fun row _ => ?_
  by_cases owned : row.isOwnedIn (some switch) owner = true
  · obtain ⟨here, own⟩ := PoolRow.isOwnedIn_iff.mp owned
    have scope : row.scope = some switch := by simpa [PoolRow.inScope] using here
    rw [returned, if_pos owned, relinquished, if_pos own, scope]
    by_cases inside : covers (rangesOf (some switch)) row = true
    · rw [if_pos inside, Option.bind_some]
      exact relinquished_of_other named.symm
    · rw [if_neg inside, Option.bind_none]
  · rw [returned_of_other (Bool.eq_false_iff.mpr owned), Option.bind_some]

theorem mem_filterMap_relinquished : row ∈ rows.filterMap (relinquished rangesOf owner) ↔
    (row ∈ rows ∧ row.owner ≠ owner) ∨
      ∃ held ∈ rows, held.owner = owner ∧ covers (rangesOf held.scope) held = true ∧ row = held.setOwner "" :=
  mem_filterMap_given_back

theorem Distinct.relinquished (distinct : pool.Distinct rows) (named : owner ≠ "") :
    pool.Relinquished rangesOf owner rows (rows.filterMap (relinquished rangesOf owner)) := by
  refine ⟨rfl, fun row member => ?_, fun row member owned inside => ?_, fun row member owned outside other among same => ?_⟩
  · rcases mem_filterMap_relinquished.mp member with ⟨_, other⟩ | ⟨held, _, _, _, rfl⟩
    · exact other
    · exact named.symm
  · exact mem_filterMap_relinquished.mpr (Or.inr ⟨row, member, owned, inside, rfl⟩)
  · -- What has the key of this row came of this row.
    rcases mem_filterMap_relinquished.mp among with ⟨known, kept⟩ | ⟨held, known, _, inside, rfl⟩
    · exact kept (distinct.eq_of_key known member same ▸ owned)
    · rw [distinct.eq_of_key known member same, outside] at inside
      cases inside

end Pool

def Store.ungated (store : Store) (ranges : PoolRanges) (owner : String) : Store :=
  { store with
    l2 := store.l2.filterMap (Pool.relinquished (fun _ => ranges.l2) owner)
    border := store.border.filterMap (Pool.relinquished (BorderPool.rangesIn ⟨ranges.border⟩) owner) }

namespace SegmentPool

variable {segments : SegmentPool} {store : Store} {owner : String}

theorem run_release_all (unscoped : segments.pool.isScoped = false)
    (sound : segments.pool.Sound (store.rows segments.pool)) : ∃ held,
    (segments.release .free owner).run store = (.ok held, store.setRows segments.pool
      ((store.rows segments.pool).filterMap (Pool.relinquished (fun _ => segments.ranges) owner))) := by
  obtain ⟨held, done⟩ := @run_release segments store owner sound
  refine ⟨held, done.trans ?_⟩
  rw [Store.act, sound.after_release (Pool.admits_of_unscoped unscoped), Pool.scopeOf_of_unscoped unscoped,
    Pool.returned_everywhere]

end SegmentPool

namespace Synchronizer

variable {ω : Type} {sync : Synchronizer ω} {site : Site ω} {router : Router} {gateway : ExternalGateway}
  {planned : Option GatewayPlan} {l2 l3 : Option SegmentId} {leaf : String × VlanId} {leaves : List (String × VlanId)}
  {ranges : PoolRanges} {base now : Store} {owner : String}

theorem leads_removeLeg_any (alone : sync.outside.Alone) (sound : Pool.borderVlan.Sound site.store.border) :
    Task.Leads (sync.removeLeg router gateway planned l2 l3 leaf) site fun result after =>
      result = .ok () ∧ after.store = { site.store with
        border := site.store.border.filterMap
          (Pool.returned (some leaf.1) (sync.allocators.border.rangesOf leaf.1) router.id) } := by
  have frees {mid : Site ω} (same : mid.store = site.store) :
      Task.Leads (do let _ ← Task.store sync.outside fun lock => sync.allocators.border.release lock leaf.1 router.id) mid
        fun result after => result = .ok () ∧ after.store = { site.store with
          border := site.store.border.filterMap
            (Pool.returned (some leaf.1) (sync.allocators.border.rangesOf leaf.1) router.id) } := by
    obtain ⟨held, released⟩ := @BorderPool.run_release sync.allocators.border site.store leaf.1 router.id sound
    refine Task.leads_bind.mpr ((Task.leads_store alone).mpr ?_)
    rw [same, released]
    exact ⟨rfl, congrArg (site.store.setRows .borderVlan) (sound.after_release fun _ => rfl)⟩
  unfold removeLeg
  split
  · unfold retractLeg
    refine Task.leads_bind.mpr (Task.Leads.ignore_send fun _ _ => Task.leads_ignore.mpr ?_)
    exact Task.Leads.send (fun _ => frees rfl) fun _ _ => frees rfl
  · exact frees rfl

/-- On its way from the base the owner has given back some VLANs, and holds more on the leaves to come alone. -/
structure Yielding (ranges : PoolRanges) (owner : String) (base : Store) (leaves : List (String × VlanId)) (now : Store) :
    Prop where
  sound : Pool.borderVlan.Sound now.border
  others : now = { base with border := now.border }
  final : now.border.filterMap (Pool.relinquished (BorderPool.rangesIn ⟨ranges.border⟩) owner) =
    base.border.filterMap (Pool.relinquished (BorderPool.rangesIn ⟨ranges.border⟩) owner)
  held : ∀ row ∈ now.border, row.owner = owner → ∃ leaf ∈ leaves, row.scope = some leaf.1

theorem Yielding.start (sound : Pool.borderVlan.Sound base.border)
    (listed : ∀ leaf, leaf ∈ leaves ↔ leaf ∈ BorderPool.leavesOf owner base.border) : Yielding ranges owner base leaves base := by
  refine ⟨sound, rfl, rfl, fun row member owned => ?_⟩
  have mine : BorderPool.leafOf row ∈ BorderPool.leavesOf owner base.border :=
    List.mem_map_of_mem (List.mem_filter.mpr ⟨member, beq_iff_eq.mpr owned⟩)
  exact ⟨_, (listed _).mpr mine, (congrArg Prod.fst (BorderPool.keyOf_leafOf sound member)).symm⟩

theorem Yielding.next (yielding : Yielding ranges owner base (leaf :: leaves) now) (named : owner ≠ "") :
    Yielding ranges owner base leaves { now with
      border := now.border.filterMap
        (Pool.returned (some leaf.1) (BorderPool.rangesOf ⟨ranges.border⟩ leaf.1) owner) } := by
  refine ⟨yielding.sound.returned, by rw [yielding.others], ?_, ?_⟩
  · exact (@Pool.filterMap_returned_relinquished (BorderPool.rangesIn ⟨ranges.border⟩) owner now.border leaf.1 named).trans
      yielding.final
  · intro row member owned
    rcases Pool.mem_filterMap_returned.mp member with ⟨known, other⟩ | ⟨held, _, _, _, rfl⟩
    · obtain ⟨there, among, scope⟩ := yielding.held row known owned
      rcases List.mem_cons.mp among with rfl | among
      · rw [PoolRow.isOwnedIn_iff.mpr ⟨by simp [PoolRow.inScope, scope], owned⟩] at other
        cases other
      · exact ⟨there, among, scope⟩
    · exact absurd owned.symm named

theorem Yielding.done (yielding : Yielding ranges owner base [] now) : now = { base with
    border := base.border.filterMap (Pool.relinquished (BorderPool.rangesIn ⟨ranges.border⟩) owner) } := by
  have unheld : ∀ row ∈ now.border, row.owner ≠ owner := by
    intro row member owned
    obtain ⟨_, absurd, _⟩ := yielding.held row member owned
    cases absurd
  rw [yielding.others, ← yielding.final, Pool.filterMap_relinquished_of_unheld unheld]

theorem leads_removeLegs_any (alone : sync.outside.Alone) (served : sync.allocators = .ofRanges ranges)
    (named : router.id ≠ "") (yielding : Yielding ranges router.id base leaves site.store) :
    Task.Leads (Task.forAll (sync.removeLeg router gateway planned l2 l3) leaves) site fun result after =>
      result = .ok () ∧ after.store = { base with
        border := base.border.filterMap (Pool.relinquished (BorderPool.rangesIn ⟨ranges.border⟩) router.id) } := by
  let keeps (left : List (String × VlanId)) (mid : Site ω) : Prop := Yielding ranges router.id base left mid.store
  have each (leaf : String × VlanId) (rest : List (String × VlanId)) (mid : Site ω) (yielding : keeps (leaf :: rest) mid) :
      Task.Leads (sync.removeLeg router gateway planned l2 l3 leaf) mid fun result after =>
        result = .ok () ∧ keeps rest after := by
    refine (leads_removeLeg_any alone yielding.sound).mono fun _ after ⟨done, store⟩ => ⟨done, ?_⟩
    simp only [keeps, store, served]
    exact yielding.next named
  have start : keeps leaves site := yielding
  exact (Task.Leads.forAll_ok each start).mono fun _ _ ⟨done, left⟩ => ⟨done, left.done⟩

theorem leads_teardownGateway_any (alone : sync.outside.Alone) (served : sync.allocators = .ofRanges ranges)
    (pools : ∀ pool : Pool, pool.Sound (site.store.rows pool)) (named : router.id ≠ "") :
    Task.Leads (sync.teardownGateway router gateway planned) site fun result after =>
      result = .ok () ∧ after.store = site.store.ungated ranges router.id := by
  have served_l3 : sync.allocators.l3 = ⟨.l3Segment, ranges.l3⟩ := by rw [served]; rfl
  have served_l2 : sync.allocators.l2 = ⟨.l2Segment, ranges.l2⟩ := by rw [served]; rfl
  obtain ⟨l2, segment⟩ := @SegmentPool.run_find ⟨.l2Segment, ranges.l2⟩ site.store router.id rfl (pools .l2Segment)
  obtain ⟨l3, routed⟩ := @SegmentPool.run_find ⟨.l3Segment, ranges.l3⟩ site.store router.id rfl (pools .l3Segment)
  have held := @BorderPool.run_heldBy site.store router.id (pools .borderVlan) named
  have yielding : Yielding ranges router.id site.store
      ((BorderPool.leavesOf router.id site.store.border).mergeSort BorderPool.holdsBefore) site.store :=
    .start (pools .borderVlan) fun _ => List.mem_mergeSort
  unfold teardownGateway
  refine (Task.leads_bind_of_run (Task.run_store alone (served_l2 ▸ segment))).mpr ?_
  refine (Task.leads_bind_of_run (Task.run_store alone (served_l3 ▸ routed))).mpr ?_
  refine (Task.leads_bind_of_run (Task.run_store alone held)).mpr ?_
  refine Task.leads_bind.mpr (Task.leads_attempt.mpr ((leads_removeLegs_any alone served named yielding).mono ?_))
  rintro _ mid ⟨rfl, store⟩
  have sound : Pool.l2Segment.Sound mid.store.l2 := by
    rw [store]
    exact pools .l2Segment
  obtain ⟨given, released⟩ := @SegmentPool.run_release_all ⟨.l2Segment, ranges.l2⟩ mid.store router.id rfl sound
  refine Task.leads_bind.mpr ((Task.leads_store alone).mpr ?_)
  rw [served_l2, released, store]
  exact ⟨rfl, rfl⟩

theorem leads_removeGateway_any (alone : sync.outside.Alone) (served : sync.allocators = .ofRanges ranges)
    (pools : ∀ pool : Pool, pool.Sound (site.store.rows pool)) (named : router.id ≠ "") :
    Task.Leads (sync.removeGateway router gateway) site fun result after =>
      result = .ok () ∧ after.store = site.store.ungated ranges router.id := by
  have down {mid : Site ω} (planned : Option GatewayPlan) (same : mid.store = site.store) :
      Task.Leads (sync.teardownGateway router gateway planned) mid fun result after =>
        result = .ok () ∧ after.store = site.store.ungated ranges router.id :=
    same ▸ leads_teardownGateway_any alone served (same ▸ pools) named
  unfold removeGateway
  refine Task.leads_bind.mpr (Task.leads_attempt.mpr (leads_planGateway.mono ?_))
  rintro (e | planned) mid ⟨store, _⟩
  · exact down none store
  · exact down planned store

theorem leads_deleteRouter (alone : sync.outside.Alone) (served : sync.allocators = .ofRanges ranges)
    (pools : ∀ pool : Pool, pool.Sound (site.store.rows pool)) (named : router.id ≠ "") :
    Task.Leads (sync.deleteRouter router) site fun result after => result = .ok () ∧ after.store =
      { (if router.externalGateway.isSome then site.store.ungated ranges router.id else site.store) with
        l3 := site.store.l3.filterMap (Pool.relinquished (fun _ => ranges.l3) router.id) } := by
  have frees {mid : Site ω} (same : mid.store.l3 = site.store.l3) :
      Task.Leads (do let _ ← Task.store sync.outside fun lock => sync.allocators.l3.release lock router.id) mid
        fun result after => result = .ok () ∧ after.store = { mid.store with
          l3 := site.store.l3.filterMap (Pool.relinquished (fun _ => ranges.l3) router.id) } := by
    have served : sync.allocators.l3 = ⟨.l3Segment, ranges.l3⟩ := by rw [served]; rfl
    have sound : Pool.l3Segment.Sound mid.store.l3 := same ▸ pools .l3Segment
    obtain ⟨held, released⟩ := @SegmentPool.run_release_all ⟨.l3Segment, ranges.l3⟩ mid.store router.id rfl sound
    refine Task.leads_bind.mpr ((Task.leads_store alone).mpr ?_)
    rw [served, released, ← same]
    exact ⟨rfl, rfl⟩
  unfold deleteRouter
  cases router.externalGateway with
  | none => exact frees rfl
  | some gateway =>
      refine Task.leads_bind.mpr ((leads_removeGateway_any alone served pools named).mono ?_)
      rintro _ mid ⟨rfl, store⟩
      have same : mid.store.l3 = site.store.l3 := by rw [store]; rfl
      refine (frees same).mono fun _ after ⟨done, left⟩ => ⟨done, ?_⟩
      rw [left, store]
      rfl

/-- Deleting a router succeeds whatever the cloud says of its gateway and the fabric to being called. It gives back
its segments of layer 3 and, where it has a gateway, its segments of layer 2 and its VLANs on every leaf, also one
that is not configured; everything else stays. -/
theorem deleted_router_relinquishes {configuration : Configuration} {outside : Outside ω} (alone : outside.Alone)
    (attainable : site.store.Attainable) (named : router.id ≠ "") :
    let sync := ofConfiguration configuration ranges outside
    ∃ after, (sync.deleteRouter router).run site = (.ok (), after) ∧
      Pool.l3Segment.Relinquished (fun _ => ranges.l3) router.id site.store.l3 after.store.l3 ∧
      (router.externalGateway.isSome = true →
        Pool.l2Segment.Relinquished (fun _ => ranges.l2) router.id site.store.l2 after.store.l2 ∧
        Pool.borderVlan.Relinquished (fun switch => (ranges.border.get? (switch.getD "")).getD .empty) router.id
          site.store.border after.store.border) ∧
      (router.externalGateway = none → after.store.l2 = site.store.l2 ∧ after.store.border = site.store.border) ∧
      after.store.bindings = site.store.bindings := by
  intro sync
  have pools := attainable.tidy.pools
  have leads : Task.Leads (sync.deleteRouter router) site _ := leads_deleteRouter alone rfl pools named
  obtain ⟨done, store⟩ := leads
  refine ⟨_, Prod.ext done rfl, ?_, fun gated => ?_, fun bare => ?_, ?_⟩
  · rw [store]
    exact (pools .l3Segment).distinct.relinquished named
  · rw [store, if_pos gated]
    exact ⟨(pools .l2Segment).distinct.relinquished named, (pools .borderVlan).distinct.relinquished named⟩
  · rw [store, bare]
    exact ⟨rfl, rfl⟩
  · rw [store]
    split <;> rfl

theorem deleted_router_relinquishes_leaf_without_ranges :
    let silent : Outside Unit := ⟨fun _ state => (.error (.unavailable "down"), state),
      fun _ state => (.error (.invalidRequest "refused"), state), fun _ => .free⟩
    let sync : Synchronizer Unit := ofConfiguration .bordered .narrow silent
    let router : Router := ⟨"router", "tenant", some ⟨"ext", "wide", .v4 ⟨10, 9, 0, 5⟩⟩⟩
    Store.spent.Attainable ∧ ∃ after, (sync.deleteRouter router).run ⟨.spent, [], ()⟩ = (.ok (), after) ∧
      after.store = ⟨[⟨none, 5000, "net"⟩], [], [⟨some "10.0.0.9", 200, ""⟩], .empty⟩ := by
  intro silent sync router
  have alone : silent.Alone := fun _ => rfl
  obtain ⟨⟨⟨l2, l3, border, bindings⟩, record, state⟩, done, routed, gated, _, bound⟩ :=
    @deleted_router_relinquishes _ ⟨.spent, [], ()⟩ router .narrow .bordered silent alone Store.Attainable.spent (by decide)
  obtain ⟨segments, vlans⟩ := gated rfl
  cases routed.rows.trans (by decide : _ = [])
  cases segments.rows.trans (by decide : _ = [⟨none, 5000, "net"⟩])
  cases vlans.rows.trans (by decide : _ = [⟨some "10.0.0.9", 200, ""⟩])
  cases bound
  exact ⟨.spent, _, done, rfl⟩

end Synchronizer
end OverlayFabric
