import OverlayFabric.Proofs.Synchronizer.Legs

namespace OverlayFabric

structure Outside.AnswersAlike {ω : Type} (outside : Outside ω) (gateway : ExternalGateway) (state later : ω) : Prop where
  segment : (outside.ask (.segmentOf gateway.networkId) later).1 = (outside.ask (.segmentOf gateway.networkId) state).1
  subnet : ∀ segment physnet, (outside.ask (.segmentOf gateway.networkId) state).1 = .ok (some segment) →
    segment.kind = .externalNet → segment.physicalNetwork = some physnet →
    (outside.ask (.subnet gateway.subnetId) (outside.ask (.segmentOf gateway.networkId) later).2).1 =
      (outside.ask (.subnet gateway.subnetId) (outside.ask (.segmentOf gateway.networkId) state).2).1

namespace Synchronizer

variable {ω : Type} {sync : Synchronizer ω} {site later : Site ω} {router : Router} {gateway : ExternalGateway}
  {plan : GatewayPlan} {ranges : PoolRanges} {l2 l3 : SegmentId} {configuration : Configuration} {calls : List Call}
  {border : String × List String}

theorem planGateway_of_alike (alike : sync.outside.AnswersAlike gateway site.outside later.outside) :
    ((sync.planGateway gateway).run later).1 = ((sync.planGateway gateway).run site).1 := by
  unfold planGateway
  refine Task.ask_congr alike.segment fun segment answered => ?_
  cases segment with
  | none => rfl
  | some segment =>
      by_cases external : segment.kind = .externalNet
      · simp only [external, bne_self_eq_false, Bool.false_eq_true, if_false]
        cases wired : segment.physicalNetwork with
        | none => rfl
        | some physnet =>
            refine Task.ask_congr (alike.subnet segment physnet answered external wired) fun subnet _ => ?_
            cases subnet with
            | none => rfl
            | some subnet =>
                simp only
                split <;> rfl
      · simp only [bne_iff_ne.mpr external, if_true]
        rfl

theorem planGateway_withStore {store : Store} :
    ((sync.planGateway gateway).run (site.withStore store)).1 = ((sync.planGateway gateway).run site).1 :=
  planGateway_of_alike ⟨rfl, fun _ _ _ _ _ => rfl⟩

theorem leads_planGateway : Task.Leads (sync.planGateway gateway) site fun _ after =>
    after.store = site.store ∧ after.calls = site.calls := by
  unfold planGateway
  refine Task.leads_bind.mpr (Task.Leads.ask (fun segment _ _ => ?_) fun _ _ _ => ⟨rfl, rfl⟩)
  cases segment with
  | none => exact ⟨rfl, rfl⟩
  | some segment =>
      simp only
      split
      · exact ⟨rfl, rfl⟩
      · cases segment.physicalNetwork with
        | none => exact ⟨rfl, rfl⟩
        | some physnet =>
            refine Task.leads_bind.mpr (Task.Leads.ask (fun subnet _ _ => ?_) fun _ _ _ => ⟨rfl, rfl⟩)
            cases subnet with
            | none => exact ⟨rfl, rfl⟩
            | some subnet =>
                simp only
                split <;> exact ⟨rfl, rfl⟩

/-- What the router's gateway is set up with: the plan, and the segments that the router holds or is given. -/
structure Equipped (sync : Synchronizer ω) (router : Router) (gateway : ExternalGateway) (site : Site ω)
    (plan : GatewayPlan) (l2 l3 : SegmentId) : Prop where
  planned : ((sync.planGateway gateway).run site).1 = .ok (some plan)
  l2 : ((sync.allocators.l2.allocate .free router.id).run site.store).1 = .ok l2
  l3 : ((sync.allocators.l3.allocate .free router.id).run site.store).1 = .ok l3

def Undone (sync : Synchronizer ω) (router : Router) (gateway : ExternalGateway) (site : Site ω)
    (after : List Call) : Prop :=
  ∃ plan l2 l3, Equipped sync router gateway site plan l2 l3 ∧ Withdrawn router gateway plan l2 l3 site.calls after

theorem Undone.of_drawn {l3 : SegmentId} {store : Store} {after : List Call} (served : sync.allocators = .ofRanges ranges)
    (sound : site.store.Sound)
    (given : (SegmentPool.allocate ⟨.l3Segment, ranges.l3⟩ .free router.id).run site.store = (.ok l3, store))
    (apart : store.l2 = site.store.l2) (undone : Undone sync router gateway (site.withStore store) after) :
    Undone sync router gateway site after := by
  obtain ⟨plan, l2, l3', ⟨planned, drawn, again⟩, withdrawn⟩ := undone
  rw [served] at drawn again
  have same : (site.withStore store).store.rows .l2Segment = site.store.rows .l2Segment := apart
  refine ⟨plan, l2, l3', ⟨planGateway_withStore.symm.trans planned, ?_, ?_⟩, withdrawn⟩
  · rw [served, ← drawn]
    exact (@SegmentPool.allocate_congr ⟨.l2Segment, ranges.l2⟩ _ _ _ _ same).symm
  · have held := @SegmentPool.run_allocate_again ⟨.l3Segment, ranges.l3⟩ _ _ _ _ rfl (sound.pools .l3Segment) given
    cases (congrArg Prod.fst held).symm.trans again
    rw [served]
    exact congrArg Prod.fst given

structure Ungated (store : Store) (router : Router) : Prop where
  named : router.id ≠ ""
  l2 : ∀ row ∈ store.l2, row.owner ≠ router.id
  border : ∀ row ∈ store.border, row.owner ≠ router.id

structure Vacant (store : Store) (owner : String) : Prop where
  l2 : ∀ row ∈ store.l2, row.owner ≠ owner
  border : ∀ row ∈ store.border, row.owner ≠ owner

theorem Ungated.vacant {store : Store} (ungated : Ungated store router) : Vacant store router.id :=
  ⟨ungated.l2, ungated.border⟩

theorem drawn_l3 {store base : Store} (sound : store.Sound) (vacant : Vacant store router.id)
    (given : ((SegmentPool.allocate ⟨.l3Segment, ranges.l3⟩ .free router.id).run store) = (.ok l3, base)) :
    base.Sound ∧ Vacant base router.id ∧
      ((SegmentPool.find ⟨.l3Segment, ranges.l3⟩ router.id).run base).1 = .ok (some l3) := by
  obtain ⟨found, ⟨rfl, _⟩ | ⟨rfl, _⟩⟩ :=
    @SegmentPool.given_cases ⟨.l3Segment, ranges.l3⟩ store router.id base l3 rfl (sound.pools .l3Segment) given
  · exact ⟨sound, vacant, found⟩
  · refine ⟨⟨sound.settled, fun pool => ?_⟩, ⟨vacant.l2, vacant.border⟩, found⟩
    cases pool
    · exact sound.pools .l2Segment
    · exact (sound.pools .l3Segment).lend
    · exact sound.pools .borderVlan

/-- What adding a gateway by a plan comes to when it succeeds: nothing, where there is nothing to do, or legs
that stand on every leaf of the plan. -/
inductive Added (sync : Synchronizer ω) (router : Router) (gateway : ExternalGateway) (ranges : PoolRanges)
    (base : Store) (calls : List Call) (after : Site ω) : Option GatewayPlan → Prop where
  | nothing (planned : Option GatewayPlan)
      (idle : ∀ plan, planned = some plan → sync.topology.bordersOf plan.physnet = []) (store : after.store = base)
      (silent : after.calls = calls) : Added sync router gateway ranges base calls after planned
  | legs {plan : GatewayPlan} {l2 l3 : SegmentId} {legs : List BorderLeg} (bare : Bare base router.id ranges l3)
      (standing : Standing sync router gateway plan l2 l3 base ranges calls legs
        (legs.flatMap (setting router gateway plan l2 l3)) after)
      (whole : (legs.map fun leg => (leg.switch, leg.interfaces)) = sync.topology.bordersOf plan.physnet) :
      Added sync router gateway ranges base calls after (some plan)

theorem leads_legs (cabling : sync.topology = .ofConfiguration configuration) (alone : sync.outside.Alone)
    (served : sync.allocators = .ofRanges ranges) (sound : site.store.Sound) (vacant : Vacant site.store router.id)
    (routed : ((SegmentPool.find ⟨.l3Segment, ranges.l3⟩ router.id).run site.store).1 = .ok (some l3)) :
    Task.Leads (do
      let l2 ← .store sync.outside fun lock => sync.allocators.l2.allocate lock router.id
      sync.addLegs router gateway plan l2 l3 (sync.topology.bordersOf plan.physnet)) site fun result after =>
      match result with
      | .ok () => Added sync router gateway ranges site.store site.calls after (some plan)
      | .error _ => after.store = site.store ∧ (after.calls = site.calls ∨
          ∃ l2, ((sync.allocators.l2.allocate .free router.id).run site.store).1 = .ok l2 ∧
            Withdrawn router gateway plan l2 l3 site.calls after.calls) := by
  have pool : sync.allocators.l2 = ⟨.l2Segment, ranges.l2⟩ := by rw [served]; rfl
  have drawn := @SegmentPool.run_allocate_of_unheld ⟨.l2Segment, ranges.l2⟩ site.store router.id rfl
    (sound.pools .l2Segment) vacant.l2
  apply Task.leads_bind.mpr
  apply (Task.leads_store alone).mpr
  rw [pool]
  rcases drawn with ⟨e, refused⟩ | ⟨named, l2, given, lendable, present⟩
  · simp only [refused]
    exact ⟨rfl, .inl rfl⟩
  · have bare : Bare site.store router.id ranges l3 := ⟨sound, named, vacant.l2, vacant.border, routed⟩
    have laid : Laid site.store ranges l2 [] :=
      ⟨lendable, present, (by simp [Pool.Lendable]), (by simp [BorderPool.Listed]), .nil⟩
    have lent : site.store.setRows .l2Segment (Pool.l2Segment.lend [(none, l2.val)] router.id site.store.l2) =
        lentTo site.store router.id l2 [] := by
      unfold lentTo
      rw [List.map_nil, Pool.lend_nil]
      rfl
    simp only [given]
    have called : site.calls = site.calls ++ [] := (List.append_nil _).symm
    refine Task.Leads.mono (leads_addLegs cabling alone served bare
      ⟨laid, List.nil_prefix, lent, called, rfl, by simp⟩ rfl) ?_
    intro result after done
    cases result with
    | ok _ =>
        obtain ⟨legs, standing, whole⟩ := done
        exact .legs bare standing whole
    | error _ => exact ⟨done.1, .inr ⟨l2, rfl, done.2⟩⟩

theorem leads_gateway (cabling : sync.topology = .ofConfiguration configuration) (alone : sync.outside.Alone)
    (served : sync.allocators = .ofRanges ranges) (sound : site.store.Sound) (ungated : Ungated site.store router)
    (held : ∃ row ∈ site.store.l3, row.owner = router.id) :
    Task.Leads (sync.addGateway router gateway) site fun result after =>
      match result with
      | .ok () => ∃ planned, ((sync.planGateway gateway).run site).1 = .ok planned ∧
          Added sync router gateway ranges site.store site.calls after planned
      | .error _ => after.store = site.store ∧ (after.calls = site.calls ∨ Undone sync router gateway site after.calls) := by
  obtain ⟨own, listed, owned⟩ := held
  have pool : sync.allocators.l3 = ⟨.l3Segment, ranges.l3⟩ := by rw [served]; rfl
  unfold addGateway
  apply Task.Leads.bind leads_planGateway.known
  · rintro planned mid ⟨ran, store, calls⟩
    cases planned with
    | none => exact ⟨none, ran, .nothing none nofun store calls⟩
    | some plan =>
        simp only
        split
        · next nowhere =>
            exact ⟨some plan, ran, .nothing (some plan) (fun _ same => by cases same; simpa using nowhere) store calls⟩
        · obtain ⟨_, _, _, l3, _, found, again⟩ := @SegmentPool.run_of_held ⟨.l3Segment, ranges.l3⟩ mid.store router.id
            (store ▸ sound.pools .l3Segment) ⟨own, store ▸ listed, PoolRow.isOwnedIn_iff.mpr ⟨rfl, owned⟩⟩
          apply Task.leads_bind.mpr
          apply (Task.leads_store alone).mpr
          rw [pool, again]
          apply (leads_legs cabling alone served (store ▸ sound) (store ▸ ungated.vacant) (congrArg Prod.fst found)).mono
          intro result after done
          rw [store, calls] at done
          cases result with
          | ok _ => exact ⟨some plan, ran, done⟩
          | error _ =>
              obtain ⟨kept, silent | ⟨l2, drawn, withdrawn⟩⟩ := done
              · exact ⟨kept, .inl silent⟩
              · have routed : ((sync.allocators.l3.allocate .free router.id).run site.store).1 = .ok l3 := by
                  rw [pool, ← store, again]
                exact ⟨kept, .inr ⟨plan, l2, l3, ⟨ran, drawn, routed⟩, withdrawn⟩⟩
  · rintro _ mid ⟨_, store, calls⟩
    exact ⟨store, .inl calls⟩

theorem leads_addGateway (cabling : sync.topology = .ofConfiguration configuration) (alone : sync.outside.Alone)
    (served : sync.allocators = .ofRanges ranges) (sound : site.store.Sound) (ungated : Ungated site.store router)
    (held : ∃ row ∈ site.store.l3, row.owner = router.id) :
    Task.Leads (sync.addGateway router gateway) site fun result after =>
      ∀ e, result = .error e → after.store = site.store ∧ (after.calls = site.calls ∨ Undone sync router gateway site after.calls) := by
  apply (leads_gateway cabling alone served sound ungated held).mono
  rintro _ after done e rfl
  exact done

theorem leads_createRouter (cabling : sync.topology = .ofConfiguration configuration) (alone : sync.outside.Alone)
    (served : sync.allocators = .ofRanges ranges) (sound : site.store.Sound) (ungated : Ungated site.store router)
    (unheld : ∀ row ∈ site.store.l3, row.owner ≠ router.id) :
    Task.Leads (sync.createRouter router) site fun result after =>
      ∀ e, result = .error e → after.store = site.store ∧ (after.calls = site.calls ∨
        ∃ gateway, router.externalGateway = some gateway ∧ Undone sync router gateway site after.calls) := by
  have pool : sync.allocators.l3 = ⟨.l3Segment, ranges.l3⟩ := by rw [served]; rfl
  have drawn := @SegmentPool.run_allocate_of_unheld ⟨.l3Segment, ranges.l3⟩ site.store router.id rfl
    (sound.pools .l3Segment) unheld
  unfold createRouter
  apply Task.leads_bind.mpr
  apply (Task.leads_store alone).mpr
  rw [pool]
  rcases drawn with ⟨e, refused⟩ | ⟨_, l3, given, lendable, own, listed, same⟩
  · simp only [refused]
    exact fun _ _ => ⟨rfl, Or.inl rfl⟩
  · simp only [given]
    let lent : Store := site.store.setRows .l3Segment
      (Pool.l3Segment.lend [(none, l3.val)] router.id site.store.l3)
    obtain ⟨lentSound, _⟩ := drawn_l3 sound ungated.vacant given
    have held : ∃ row ∈ lent.l3, row.owner = router.id := by
      refine ⟨own.setOwner router.id, Pool.mem_lend.mpr (Or.inr ⟨own, listed, ?_, rfl⟩), rfl⟩
      have key : Pool.l3Segment.key own = (none, (l3.val : Int)) := Prod.ext rfl same
      simp [key]
    -- What a refused gateway leaves is this store, and the segment goes back from there.
    have returned : lent.act .l3Segment ⟨.free, none, ranges.l3, .release router.id⟩ = site.store := by
      have back := (sound.pools .l3Segment).after_release_only rfl unheld lendable
      exact congrArg (fun l3 => { site.store with l3 }) back
    cases asked : router.externalGateway with
    | none => exact fun _ absurd => by cases absurd
    | some gateway =>
        apply Task.leads_bind.mpr
        apply Task.leads_attempt.mpr
        have bare : Ungated (site.withStore lent).store router := ⟨ungated.named, ungated.l2, ungated.border⟩
        refine (leads_addGateway cabling alone served lentSound bare held).mono ?_
        intro result mid failed
        cases result with
        | ok _ => exact fun _ absurd => by cases absurd
        | error e =>
            obtain ⟨store, called⟩ := failed e rfl
            apply Task.leads_bind.mpr
            apply Task.leads_ignore.mpr
            apply (Task.leads_store alone).mpr
            have released : ((SegmentPool.release ⟨.l3Segment, ranges.l3⟩ .free router.id).run mid.store).2 =
                site.store := by
              rw [SegmentPool.store_release, store]
              exact returned
            exact fun _ _ => ⟨released, called.imp_right fun undone =>
              ⟨gateway, rfl, undone.of_drawn served sound given rfl⟩⟩

def Refuses (outside : Outside ω) (switch : String) : Prop :=
  ∀ request state, request.switch = switch → ∃ e, (outside.send (.pushL2 request) state).1 = .error e

theorem fails_addLeg (refuses : Refuses sync.outside border.1) :
    Task.Fails (sync.addLeg router gateway plan l2 l3 border) site := by
  apply Task.fails_of_next
  intro vlan mid
  apply Task.fails_of_first
  obtain ⟨e, refused⟩ := refuses (borderRequest router gateway plan l2 ⟨border.1, border.2, vlan⟩) mid.outside rfl
  simp only [Task.Fails, Task.Leads, Task.run, Task.send]
  split
  · next accepted => simp [accepted] at refused
  · exact ⟨_, rfl⟩

theorem fails_addLegs {borders : List (String × List String)} (among : border ∈ borders)
    (refuses : Refuses sync.outside border.1) :
    Task.Fails (sync.addLegs router gateway plan l2 l3 borders) site := by
  induction borders generalizing site with
  | nil => cases among
  | cons first rest ih =>
      unfold addLegs
      apply Task.leads_bind.mpr
      apply Task.leads_attempt.mpr
      cases ran : ((sync.addLeg router gateway plan l2 l3 first).run site).1 with
      | error e =>
          rw [Task.Leads, ran]
          apply Task.fails_of_next
          exact fun _ _ => ⟨e, rfl⟩
      | ok _ =>
          rw [Task.Leads, ran]
          -- This leaf took its part, so it is not the one that refuses.
          cases among with
          | head =>
              have failed : Task.Fails (sync.addLeg router gateway plan l2 l3 border) site := fails_addLeg refuses
              obtain ⟨e, failed⟩ := failed
              rw [ran] at failed
              cases failed
          | tail _ among => exact ih among

theorem fails_addGateway (planned : Task.Leads (sync.planGateway gateway) site fun result _ => result = .ok (some plan))
    (among : border ∈ sync.topology.bordersOf plan.physnet) (refuses : Refuses sync.outside border.1) :
    Task.Fails (sync.addGateway router gateway) site := by
  unfold addGateway
  apply planned.bind
  · intro plan' mid same
    cases same
    have inhabited : (sync.topology.bordersOf plan.physnet).isEmpty = false := by
      simpa using List.ne_nil_of_mem among
    simp only [inhabited]
    apply Task.fails_of_next
    intro l3 _
    apply Task.fails_of_next
    intro l2 _
    exact fails_addLegs among refuses
  · exact fun e _ _ => ⟨e, rfl⟩

theorem fails_createRouter (asked : router.externalGateway = some gateway)
    (planned : ∀ site, Task.Leads (sync.planGateway gateway) site fun result _ => result = .ok (some plan))
    (among : border ∈ sync.topology.bordersOf plan.physnet) (refuses : Refuses sync.outside border.1) :
    Task.Fails (sync.createRouter router) site := by
  unfold createRouter
  apply Task.fails_of_next
  intro l3 mid
  rw [asked]
  apply Task.leads_bind.mpr
  apply Task.leads_attempt.mpr
  apply (fails_addGateway (planned mid) among refuses).mono
  rintro _ after ⟨e, rfl⟩
  apply Task.fails_of_next
  exact fun _ _ => ⟨e, rfl⟩

/-- A router that fails to be created, and a gateway that fails to be added to one that was, leave the
store as it was; each leaf on which layer 2 was pushed was withdrawn from once, by the plan and the segments
of the pushes, also where no route was pushed before the failure. -/
theorem failed_gateway_leaves_nothing {configuration : Configuration} {ranges : PoolRanges} {outside : Outside ω}
    {site after : Site ω} {router : Router} {e : SyncError} (alone : outside.Alone)
    (reachable : site.store.Reachable) (ungated : Ungated site.store router) :
    ((∀ row ∈ site.store.l3, row.owner ≠ router.id) →
      ((ofConfiguration configuration ranges outside).createRouter router).run site = (.error e, after) →
      after.store = site.store ∧ (after.calls = site.calls ∨
        ∃ gateway, router.externalGateway = some gateway ∧
          Undone (ofConfiguration configuration ranges outside) router gateway site after.calls)) ∧
    ∀ gateway, (∃ row ∈ site.store.l3, row.owner = router.id) →
      ((ofConfiguration configuration ranges outside).addGateway router gateway).run site = (.error e, after) →
      after.store = site.store ∧ (after.calls = site.calls ∨
        Undone (ofConfiguration configuration ranges outside) router gateway site after.calls) := by
  have sound := reachable.sound
  let sync := ofConfiguration configuration ranges outside
  constructor
  · intro unheld failed
    have leads : Task.Leads (sync.createRouter router) site _ := leads_createRouter rfl alone rfl sound ungated unheld
    exact leads.of_run failed e rfl
  · intro gateway held failed
    have leads : Task.Leads (sync.addGateway router gateway) site _ := leads_addGateway rfl alone rfl sound ungated held
    exact leads.of_run failed e rfl

theorem gateway_refused_on_second_leaf :
    let sync : Synchronizer Unit := ofConfiguration .bordered .bordered
      (.refusing (Call.isPushL2On "10.0.0.9") ⟨"wide", "ext", "10.9.0.0/24", none⟩ none)
    let gateway : ExternalGateway := ⟨"ext", "wide", .v4 ⟨10, 9, 0, 5⟩⟩
    let router : Router := ⟨"router", "tenant", some gateway⟩
    let created := sync.after (.routerCreated { router with externalGateway := none }) ⟨.bordered, [], ()⟩
    (∃ e after, (sync.createRouter router).run ⟨.bordered, [], ()⟩ = (.error e, after) ∧ after.store = .bordered ∧
      (after.calls = [] ∨ ∃ gateway, router.externalGateway = some gateway ∧
        Undone sync router gateway ⟨.bordered, [], ()⟩ after.calls)) ∧
    ∃ e after, (sync.addGateway router gateway).run created = (.error e, after) ∧ after.store = created.store ∧
      (after.calls = created.calls ∨ Undone sync router gateway created after.calls) := by
  intro sync gateway router created
  have alone : sync.outside.Alone := fun _ => rfl
  have refuses : Refuses sync.outside "10.0.0.9" := fun request _ same => by
    exact ⟨.invalidRequest "refused", by simp [sync, ofConfiguration, Outside.refusing, Call.isPushL2On, same]⟩
  have among : ("10.0.0.9", ["eth9"]) ∈ sync.topology.bordersOf "out" := by decide +kernel
  let plan : GatewayPlan := ⟨"out", Subnet.addressCidr ⟨"wide", "ext", "10.9.0.0/24", none⟩ gateway.fixedIp, none⟩
  have planned (site : Site Unit) :
      Task.Leads (sync.planGateway gateway) site fun result _ => result = .ok (some plan) := by
    have external : (sync.planGateway gateway).run site = (.ok (some plan), site) := rfl
    rw [Task.Leads, external]
  have reachable : created.store.Reachable := .handled _ .bordered Configuration.check_bordered alone
  have held : ∃ row ∈ created.store.l3, row.owner = "router" := by decide +kernel
  have ungated : Ungated created.store router := ⟨by decide, by decide +kernel, by decide +kernel⟩
  have fresh : Ungated .bordered router := ⟨by decide, by decide +kernel, by decide +kernel⟩
  have unheld : ∀ row ∈ Store.bordered.l3, row.owner ≠ router.id := by decide +kernel
  constructor
  · have fails : Task.Fails (sync.createRouter router) ⟨.bordered, [], ()⟩ := fails_createRouter rfl planned among refuses
    obtain ⟨e, after, failed⟩ := fails.run
    have left := (failed_gateway_leaves_nothing alone .bordered fresh).1 unheld failed
    exact ⟨e, after, failed, left⟩
  · have fails : Task.Fails (sync.addGateway router gateway) created := fails_addGateway (planned created) among refuses
    obtain ⟨e, after, failed⟩ := fails.run
    have left := (failed_gateway_leaves_nothing alone reachable ungated).2 gateway held failed
    exact ⟨e, after, failed, left⟩

end Synchronizer
end OverlayFabric
