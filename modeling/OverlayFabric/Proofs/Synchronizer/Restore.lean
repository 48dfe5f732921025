import OverlayFabric.Proofs.Synchronizer.Withdraw

namespace OverlayFabric

namespace Synchronizer

variable {ω : Type} {sync : Synchronizer ω} {site added later : Site ω} {router : Router} {gateway : ExternalGateway}
  {planned : Option GatewayPlan} {ranges : PoolRanges} {configuration : Configuration} {base : Store} {calls : List Call}

theorem leads_teardownGateway_of_vacant (alone : sync.outside.Alone) (served : sync.allocators = .ofRanges ranges)
    (sound : site.store.Sound) (vacant : Vacant site.store router.id) :
    Task.Leads (sync.teardownGateway router gateway planned) site fun result after =>
      result = .ok () ∧ after.store = site.store ∧ after.calls = site.calls := by
  have pools : sync.allocators.l3 = ⟨.l3Segment, ranges.l3⟩ ∧ sync.allocators.l2 = ⟨.l2Segment, ranges.l2⟩ := by
    rw [served]
    exact ⟨rfl, rfl⟩
  have segment : (Task.store sync.outside fun _ => sync.allocators.l2.find router.id).run site = (.ok none, site) := by
    refine Task.run_read ?_
    rw [pools.2]
    exact congrArg Prod.fst (@SegmentPool.run_find_of_unheld ⟨.l2Segment, ranges.l2⟩ _ _ vacant.l2)
  obtain ⟨l3, found⟩ := @SegmentPool.run_find ⟨.l3Segment, ranges.l3⟩ site.store router.id rfl (sound.pools .l3Segment)
  have routed : (Task.store sync.outside fun _ => sync.allocators.l3.find router.id).run site = (.ok l3, site) := by
    refine Task.run_read ?_
    rw [pools.1]
    exact congrArg Prod.fst found
  have held : (Task.store sync.outside fun _ => BorderPool.heldBy router.id).run site = (.ok [], site) :=
    Task.run_read (congrArg Prod.fst (BorderPool.run_heldBy_of_unheld (sound.pools .borderVlan) vacant.border))
  obtain ⟨given, released⟩ := @SegmentPool.run_release ⟨.l2Segment, ranges.l2⟩ site.store router.id
    (sound.pools .l2Segment)
  have kept : site.store.act .l2Segment ⟨.free, none, ranges.l2, .release router.id⟩ = site.store := by
    have rows := @Pool.Sound.after_release_of_unheld _ _ none router.id ranges.l2 (sound.pools .l2Segment)
      (Pool.admits_of_unscoped rfl) (Pool.open_to_of_unheld vacant.l2)
    exact congrArg (fun l2 => { site.store with l2 }) rows
  unfold teardownGateway
  refine (Task.leads_bind_of_run segment).mpr ((Task.leads_bind_of_run routed).mpr ((Task.leads_bind_of_run held).mpr ?_))
  refine Task.leads_bind.mpr (Task.leads_attempt.mpr (Task.leads_pure.mpr ?_))
  refine Task.leads_bind.mpr ((Task.leads_store alone).mpr ?_)
  rw [pools.2, released]
  exact ⟨rfl, kept, rfl⟩

theorem leads_removeGateway (cabling : sync.topology = .ofConfiguration configuration) (alone : sync.outside.Alone)
    (served : sync.allocators = .ofRanges ranges) (sound : base.Sound) (vacant : Vacant base router.id)
    (came : Added sync router gateway ranges base calls added planned)
    (known : ((sync.planGateway gateway).run later).1 = .ok planned) (same : later.store = added.store) :
    Task.Leads (sync.removeGateway router gateway) later fun result removed =>
      result = .ok () ∧ removed.store = base ∧ ∃ plan l2 l3, ∃ legs : List BorderLeg,
        legs.Pairwise (fun a b => a.switch < b.switch) ∧
        added.calls = calls ++ legs.flatMap (setting router gateway plan l2 l3) ∧
        removed.calls = later.calls ++ legs.flatMap (withdrawal router gateway plan l2 l3) := by
  unfold removeGateway
  refine Task.leads_bind.mpr (Task.leads_attempt.mpr (leads_planGateway.known.mono ?_))
  rintro _ mid ⟨rfl, store, unheard⟩
  rw [known]
  cases came with
  | nothing planned idle unchanged silent =>
      have now : mid.store = base := store.trans (same.trans unchanged)
      apply (leads_teardownGateway_of_vacant alone served (now ▸ sound) (now ▸ vacant)).mono
      intro result removed ⟨done, kept, quiet⟩
      let one : SegmentId := ⟨1, by decide, by decide⟩
      exact ⟨done, kept.trans now, ⟨"", none, none⟩, one, one, [], .nil, by simpa using silent, by simp [quiet, unheard]⟩
  | @legs plan l2 l3 legs bare standing whole =>
      have now : mid.store = lentTo base router.id l2 legs := store.trans (same.trans standing.now)
      apply (leads_teardownGateway alone served bare standing.laid (standing.cabled cabling) now).mono
      intro result removed ⟨done, returned, more⟩
      exact ⟨done, returned, plan, l2, l3, legs, standing.laid.ascending, standing.called, unheard ▸ more⟩

/-- Removing a gateway right after it was added succeeds whatever the fabric says, leaves the store as it was
before the gateway came, and has every leaf drop in the same order what it was given. -/
theorem removed_gateway_undone {configuration : Configuration} {outside : Outside ω} (alone : outside.Alone)
    (reachable : site.store.Reachable) (ungated : Ungated site.store router)
    (held : ∃ row ∈ site.store.l3, row.owner = router.id) :
    let sync := ofConfiguration configuration ranges outside
    (sync.addGateway router gateway).run site = (.ok (), added) → later.store = added.store →
      outside.AnswersAlike gateway site.outside later.outside →
      ∃ removed, ∃ legs : List (L2Request × VrfRequest), (sync.removeGateway router gateway).run later = (.ok (), removed) ∧
        removed.store = site.store ∧ legs.Pairwise (fun a b => a.1.switch < b.1.switch) ∧
        (∀ leg ∈ legs, leg.2.switch = leg.1.switch) ∧
        added.calls = site.calls ++ legs.flatMap (fun (l2, vrf) => [.pushL2 l2, .pushVrf vrf]) ∧
        removed.calls = later.calls ++
          legs.flatMap fun (l2, vrf) => [.retractVrf (vrf.withMode .delete), .retractL2 l2] := by
  intro sync came same alike
  have adds : Task.Leads (sync.addGateway router gateway) site _ :=
    leads_gateway rfl alone rfl reachable.sound ungated held
  obtain ⟨planned, known, came⟩ := adds.of_run came
  have plan : ((sync.planGateway gateway).run later).1 = .ok planned := (planGateway_of_alike alike).trans known
  have removes : Task.Leads (sync.removeGateway router gateway) later _ :=
    leads_removeGateway rfl alone rfl reachable.sound ungated.vacant came plan same
  obtain ⟨done, store, plan, l2, l3, legs, ascending, pushed, retracted⟩ := removes
  refine ⟨_, legs.map fun leg => (borderRequest router gateway plan l2 leg, routeRequest router gateway plan l3 leg),
    Prod.ext done rfl, store, List.pairwise_map.mpr ascending, ?_, ?_, ?_⟩
  · intro leg among
    obtain ⟨_, _, rfl⟩ := List.mem_map.mp among
    rfl
  · rw [List.flatMap_map]
    exact pushed
  · rw [List.flatMap_map]
    exact retracted

theorem removed_gateway_undone_on_two_leaves :
    let refused (call : Call) := call.name = "retract_vrf" || call.name = "retract_l2"
    let sync : Synchronizer Unit := ofConfiguration .bordered .bordered
      (.refusing refused ⟨"wide", "ext", "10.9.0.0/24", none⟩ none)
    let gateway : ExternalGateway := ⟨"ext", "wide", .v4 ⟨10, 9, 0, 5⟩⟩
    let router : Router := ⟨"router", "tenant", none⟩
    let created := sync.after (.routerCreated router) ⟨.bordered, [], ()⟩
    ∃ added removed, ∃ legs : List (L2Request × VrfRequest),
      (sync.addGateway router gateway).run created = (.ok (), added) ∧
      added.store.border = [⟨some "10.0.0.8", 200, "router"⟩, ⟨some "10.0.0.9", 200, "router"⟩] ∧
      (sync.removeGateway router gateway).run added = (.ok (), removed) ∧ removed.store = created.store ∧
      added.calls = created.calls ++ legs.flatMap (fun (l2, vrf) => [.pushL2 l2, .pushVrf vrf]) ∧
      removed.calls = added.calls ++ legs.flatMap fun (l2, vrf) => [.retractVrf (vrf.withMode .delete), .retractL2 l2] := by
  intro refused sync gateway router created
  have succeeds : ((sync.addGateway router gateway).run created).1 = .ok () := by decide +kernel
  have lent : ((sync.addGateway router gateway).run created).2.store.border =
      [⟨some "10.0.0.8", 200, "router"⟩, ⟨some "10.0.0.9", 200, "router"⟩] := by decide +kernel
  obtain ⟨added, came⟩ := Task.run_of_result succeeds
  have reachable : created.store.Reachable :=
    .handled (.routerCreated router) .bordered Configuration.check_bordered fun _ => rfl
  have held : ∃ row ∈ created.store.l3, row.owner = "router" := by decide +kernel
  have ungated : Ungated created.store router := ⟨by decide, by decide +kernel, by decide +kernel⟩
  obtain ⟨removed, legs, undone, store, _, _, pushed, retracted⟩ :=
    removed_gateway_undone (fun _ => rfl) reachable ungated held came rfl ⟨rfl, fun _ _ _ _ _ => rfl⟩
  rw [came] at lent
  exact ⟨added, removed, legs, came, lent, undone, store, pushed, retracted⟩

end Synchronizer
end OverlayFabric
