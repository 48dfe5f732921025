import OverlayFabric.Proofs.Synchronizer.Restore

namespace OverlayFabric

def Outside.Steady {ω : Type} (outside : Outside ω) : Prop :=
  ∀ {α : Type} (query : Query α) (state later : ω), (outside.ask query later).1 = (outside.ask query state).1

namespace Synchronizer

variable {ω : Type} {sync : Synchronizer ω} {site after : Site ω} {original updated router : Router}
  {gateway : ExternalGateway} {planned : Option GatewayPlan} {plan : GatewayPlan} {ranges : PoolRanges}
  {configuration : Configuration} {store base : Store} {l2 l3 : SegmentId} {legs : List BorderLeg} {leg : BorderLeg}
  {switch : String} {calls undone since more : List Call}

/-- The gateway to which the fabric is brought by an update: the new one, but for one in the network of the old. -/
def followed (original updated : Router) : Option ExternalGateway :=
  match original.externalGateway, updated.externalGateway with
  | some old, some new => if old.networkId = new.networkId then some old else some new
  | _, new => new

def Addressed (sync : Synchronizer ω) (gateway : ExternalGateway) (plan : GatewayPlan) : Prop :=
  ∃ (segment : NetworkSegment) (subnet : Subnet), segment.kind = .externalNet ∧
    (∀ state, (sync.outside.ask (.segmentOf gateway.networkId) state).1 = .ok (some segment)) ∧
    (∀ state, (sync.outside.ask (.subnet gateway.subnetId) state).1 = .ok (some subnet)) ∧
    segment.physicalNetwork = some plan.physnet ∧ plan.border = subnet.addressCidr gateway.fixedIp ∧
    plan.route = subnet.gatewayCidr

/-- What the answers of the cloud make of a gateway: a plan, or none and the reason for that. -/
inductive Resolves (outside : Outside ω) (gateway : ExternalGateway) (state : ω) : Option GatewayPlan → Prop where
  | unsegmented {heard : ω} (asked : outside.ask (.segmentOf gateway.networkId) state = (.ok none, heard)) :
      Resolves outside gateway state none
  | internal {heard : ω} {segment : NetworkSegment}
      (asked : outside.ask (.segmentOf gateway.networkId) state = (.ok (some segment), heard))
      (inside : segment.kind ≠ .externalNet) : Resolves outside gateway state none
  | unwired {heard : ω} {segment : NetworkSegment}
      (asked : outside.ask (.segmentOf gateway.networkId) state = (.ok (some segment), heard))
      (external : segment.kind = .externalNet) (nowhere : segment.physicalNetwork = none) :
      Resolves outside gateway state none
  | unrouted {heard later : ω} {segment : NetworkSegment} {physnet : String} {subnet : Subnet}
      (asked : outside.ask (.segmentOf gateway.networkId) state = (.ok (some segment), heard))
      (external : segment.kind = .externalNet) (wired : segment.physicalNetwork = some physnet)
      (known : outside.ask (.subnet gateway.subnetId) heard = (.ok (some subnet), later))
      (v6 : subnet.isV6 = true ∨ gateway.fixedIp.isV6 = true) : Resolves outside gateway state none
  | planned {heard later : ω} {segment : NetworkSegment} {physnet : String} {subnet : Subnet}
      (asked : outside.ask (.segmentOf gateway.networkId) state = (.ok (some segment), heard))
      (external : segment.kind = .externalNet) (wired : segment.physicalNetwork = some physnet)
      (known : outside.ask (.subnet gateway.subnetId) heard = (.ok (some subnet), later))
      (v4 : subnet.isV6 = false ∧ gateway.fixedIp.isV6 = false) :
      Resolves outside gateway state (some ⟨physnet, subnet.addressCidr gateway.fixedIp, subnet.gatewayCidr⟩)

def Plans (sync : Synchronizer ω) : Option ExternalGateway → Option GatewayPlan → Prop
  | none, planned => planned = none
  | some gateway, planned => (∀ site, ((sync.planGateway gateway).run site).1 = .ok planned) ∧
      ∀ plan, planned = some plan → sync.Addressed gateway plan

def endsOf (sync : Synchronizer ω) : Option GatewayPlan → List String
  | none => []
  | some plan => (sync.topology.bordersOf plan.physnet).map Prod.fst

/-- The last that the leaf was told is a push of the gateway, on the VLAN that the router has there. -/
def Told (owner : String) (gateway : ExternalGateway) (plan : GatewayPlan) (store : Store) (since : List Call)
    (switch : String) : Prop :=
  ∃ before rest, ∃ (l2 : L2Request) (vrf : VrfRequest), since = before ++ .pushL2 l2 :: .pushVrf vrf :: rest ∧
    (∀ call ∈ rest, call.switch ≠ switch) ∧
    (l2.switch = switch ∧ l2.routerId = some owner ∧ l2.networkId = gateway.networkId ∧ l2.gateway = plan.border) ∧
    (vrf.switch = switch ∧ vrf.routerId = owner ∧ vrf.networkId = gateway.networkId ∧ vrf.gateway = plan.route ∧
      vrf.isExternal = true) ∧
    l2.vlan = vrf.vlan ∧ ∃ row ∈ store.border, row.scope = some switch ∧ row.owner = owner ∧ row.id = vrf.vlan.val

/-- Whatever was pushed to the leaf was retracted after it. -/
def Cleared (since : List Call) (switch : String) : Prop :=
  ∀ before call rest, since = before ++ call :: rest → call.switch = switch →
    (∀ l2, call = .pushL2 l2 → .retractL2 l2 ∈ rest) ∧
      ∀ vrf, call = .pushVrf vrf → .retractVrf (vrf.withMode .delete) ∈ rest

/-- The fabric has the planned gateway of the router, and nothing else of what it was told since. -/
structure Programmed (sync : Synchronizer ω) (owner : String) (gateway : Option ExternalGateway)
    (planned : Option GatewayPlan) (store : Store) (since : List Call) : Prop where
  held : ∀ switch, (∃ row ∈ store.border, row.scope = some switch ∧ row.owner = owner) ↔ switch ∈ sync.endsOf planned
  told : ∀ gateway', gateway = some gateway' → ∀ plan, planned = some plan →
    ∀ switch ∈ sync.endsOf planned, Told owner gateway' plan store since switch
  cleared : ∀ switch, switch ∉ sync.endsOf planned → Cleared since switch

def SetUp (sync : Synchronizer ω) (router : Router) (ranges : PoolRanges) (calls : List Call) (site : Site ω) :
    Option ExternalGateway → Prop
  | none => site.store.Sound ∧ Vacant site.store router.id ∧ site.calls = calls
  | some gateway => ∃ planned base, sync.Plans (some gateway) planned ∧ Store.Sound base ∧ Vacant base router.id ∧
      Added sync router gateway ranges base calls site planned

section Calls

theorem cleared_nil : Cleared [] switch := by
  intro before call rest split
  simp at split

theorem Cleared.append (cleared : Cleared since switch) (elsewhere : ∀ call ∈ more, call.switch ≠ switch) :
    Cleared (since ++ more) switch := by
  intro before call rest split here
  rcases List.append_eq_append_iff.mp split with ⟨front, rfl, later⟩ | ⟨back, rfl, later⟩
  · exact absurd here (elsewhere call (later ▸ List.mem_append_right _ (.head _)))
  · cases back with
    | nil => exact absurd here (elsewhere call (by rw [List.nil_append] at later; exact later ▸ .head _))
    | cons first rest' =>
        obtain ⟨rfl, rfl⟩ := List.cons.inj later
        obtain ⟨l2, vrf⟩ := cleared before call rest' rfl here
        exact ⟨fun request same => List.mem_append_left _ (l2 request same),
          fun request same => List.mem_append_left _ (vrf request same)⟩

theorem cleared_withdrawn : Cleared (legs.flatMap (setting router gateway plan l2 l3) ++
    legs.flatMap (withdrawal router gateway plan l2 l3)) switch := by
  have dropped {call : Call} (member : call ∈ legs.flatMap (withdrawal router gateway plan l2 l3)) :
      (∀ request, call ≠ .pushL2 request) ∧ ∀ request, call ≠ .pushVrf request := by
    obtain ⟨leg, _, member⟩ := List.mem_flatMap.mp member
    simp only [withdrawal, List.mem_cons, List.not_mem_nil, or_false] at member
    rcases member with rfl | rfl <;> exact ⟨by simp, by simp⟩
  intro before call rest split _
  rcases List.append_eq_append_iff.mp split with ⟨front, rfl, later⟩ | ⟨back, pushed, later⟩
  · have away := dropped (later ▸ List.mem_append_right _ (.head _))
    exact ⟨fun request same => absurd same (away.1 request), fun request same => absurd same (away.2 request)⟩
  · cases back with
    | nil =>
        rw [List.nil_append] at later
        have away := @dropped call (later ▸ .head _)
        exact ⟨fun request same => absurd same (away.1 request), fun request same => absurd same (away.2 request)⟩
    | cons first rest' =>
        obtain ⟨rfl, rfl⟩ := List.cons.inj later
        obtain ⟨leg, among, member⟩ := List.mem_flatMap.mp (pushed ▸ List.mem_append_right before (.head rest'))
        have gone {call : Call} (member : call ∈ withdrawal router gateway plan l2 l3 leg) :
            call ∈ rest' ++ legs.flatMap (withdrawal router gateway plan l2 l3) :=
          List.mem_append_right _ (List.mem_flatMap.mpr ⟨leg, among, member⟩)
        simp only [setting, List.mem_cons, List.not_mem_nil, or_false] at member
        rcases member with rfl | rfl
        · refine ⟨fun request same => ?_, by simp⟩
          cases same
          exact gone (.tail _ (.head _))
        · refine ⟨by simp, fun request same => ?_⟩
          cases same
          exact gone (.head _)

end Calls

section Legs

theorem mem_endsOf (whole : (legs.map fun leg => (leg.switch, leg.interfaces)) = sync.topology.bordersOf plan.physnet) :
    switch ∈ sync.endsOf (some plan) ↔ ∃ leg ∈ legs, leg.switch = switch := by
  rw [endsOf, ← whole, List.map_map]
  exact List.mem_map

theorem switch_of_setting {call : Call} (member : call ∈ legs.flatMap (setting router gateway plan l2 l3)) :
    ∃ leg ∈ legs, call.switch = leg.switch := by
  obtain ⟨leg, among, member⟩ := List.mem_flatMap.mp member
  simp only [setting, List.mem_cons, List.not_mem_nil, or_false] at member
  rcases member with rfl | rfl <;> exact ⟨leg, among, rfl⟩

theorem row_of_leg (laid : Laid base ranges l2 legs) (among : leg ∈ legs) :
    ∃ row ∈ (lentTo base router.id l2 legs).border,
      row.scope = some leg.switch ∧ row.owner = router.id ∧ row.id = leg.vlan.val := by
  obtain ⟨row, known, key⟩ := laid.listed leg.leaf (List.mem_map_of_mem among)
  have given : Pool.borderVlan.key row ∈ legs.map BorderLeg.key := key ▸ List.mem_map_of_mem among
  obtain ⟨place, its⟩ := Prod.ext_iff.mp key
  exact ⟨row.setOwner router.id, Pool.mem_lend.mpr (Or.inr ⟨row, known, given, rfl⟩), place, rfl, its⟩

theorem leg_of_row (bare : Bare base router.id ranges l3) {row : PoolRow}
    (member : row ∈ (lentTo base router.id l2 legs).border) (here : row.scope = some switch) (owned : row.owner = router.id) :
    ∃ leg ∈ legs, leg.switch = switch := by
  rcases Pool.mem_lend.mp member with ⟨known, _⟩ | ⟨before, _, given, rfl⟩
  · exact absurd owned (bare.border row known)
  · obtain ⟨leg, among, key⟩ := List.mem_map.mp given
    refine ⟨leg, among, Option.some.inj ?_⟩
    exact (congrArg Prod.fst key).trans here

theorem told_of_leg (standing : Standing sync router gateway plan l2 l3 base ranges calls legs
    (legs.flatMap (setting router gateway plan l2 l3)) site) (among : leg ∈ legs) :
    Told router.id gateway plan site.store (since ++ legs.flatMap (setting router gateway plan l2 l3)) leg.switch := by
  obtain ⟨earlier, later, rfl⟩ := List.append_of_mem among
  refine ⟨since ++ earlier.flatMap (setting router gateway plan l2 l3), later.flatMap (setting router gateway plan l2 l3),
    borderRequest router gateway plan l2 leg, routeRequest router gateway plan l3 leg, ?_, ?_, ⟨rfl, rfl, rfl, rfl⟩,
    ⟨rfl, rfl, rfl, rfl, rfl⟩, rfl, ?_⟩
  · simp [setting]
  · intro call member same
    obtain ⟨other, also, its⟩ := switch_of_setting member
    have less := (List.pairwise_cons.mp (List.pairwise_append.mp standing.laid.ascending).2.1).1 other also
    exact String.lt_irrefl _ (same ▸ its ▸ less)
  · rw [standing.now]
    exact row_of_leg standing.laid among

end Legs

theorem programmed_of_vacant (vacant : Vacant store router.id) (idle : sync.endsOf planned = [])
    (cleared : ∀ switch, Cleared since switch) (gateway : Option ExternalGateway) :
    Programmed sync router.id gateway planned store since := by
  refine ⟨fun switch => ?_, fun _ _ _ _ switch ends => ?_, fun switch _ => cleared switch⟩
  · rw [idle]
    exact ⟨fun ⟨row, member, _, owned⟩ => absurd owned (vacant.border row member), nofun⟩
  · rw [idle] at ends
    cases ends

theorem programmed_of_added (vacant : Vacant base router.id)
    (added : Added sync router gateway ranges base (calls ++ undone) site planned)
    (cleared : ∀ switch, Cleared undone switch) : ∃ since, site.calls = calls ++ since ∧
      Programmed sync router.id (some gateway) planned site.store since := by
  cases added with
  | nothing planned idle store silent =>
      refine ⟨undone, silent, programmed_of_vacant (store ▸ vacant) ?_ cleared (some gateway)⟩
      cases planned with
      | none => rfl
      | some plan => rw [endsOf, idle plan rfl, List.map_nil]
  | @legs plan l2 l3 legs bare standing whole =>
      refine ⟨undone ++ legs.flatMap (setting router gateway plan l2 l3), ?_, fun switch => ?_, ?_, fun switch away => ?_⟩
      · rw [standing.called, List.append_assoc]
      · rw [mem_endsOf whole, standing.now]
        constructor
        · rintro ⟨row, member, here, owned⟩
          exact leg_of_row bare member here owned
        · rintro ⟨leg, among, rfl⟩
          obtain ⟨row, member, here, owned, _⟩ := row_of_leg standing.laid among
          exact ⟨row, member, here, owned⟩
      · intro _ same _ also switch ends
        cases same
        cases also
        obtain ⟨leg, among, rfl⟩ := (mem_endsOf whole).mp ends
        exact told_of_leg standing among
      · refine (cleared switch).append fun call member here => away ((mem_endsOf whole).mpr ?_)
        obtain ⟨leg, among, its⟩ := switch_of_setting member
        exact ⟨leg, among, its.symm.trans here⟩

theorem programmed_of_setUp {gateway : Option ExternalGateway} (stands : SetUp sync router ranges (calls ++ undone) site gateway)
    (cleared : ∀ switch, Cleared undone switch) : ∃ planned since, sync.Plans gateway planned ∧
      site.calls = calls ++ since ∧ Programmed sync router.id gateway planned site.store since := by
  cases gateway with
  | none =>
      obtain ⟨_, vacant, called⟩ := stands
      exact ⟨none, undone, rfl, called, programmed_of_vacant vacant rfl cleared none⟩
  | some gateway =>
      obtain ⟨planned, base, plans, _, vacant, added⟩ := stands
      obtain ⟨since, called, programmed⟩ := programmed_of_added vacant added cleared
      exact ⟨planned, since, plans, called, programmed⟩

section Steps

variable (cabling : sync.topology = .ofConfiguration configuration) (alone : sync.outside.Alone)
  (served : sync.allocators = .ofRanges ranges) (steady : sync.outside.Steady)

theorem leads_planGateway_resolves : Task.Leads (sync.planGateway gateway) site fun result _ =>
    ∀ planned, result = .ok planned → Resolves sync.outside gateway site.outside planned := by
  unfold planGateway
  refine Task.leads_bind.mpr (Task.Leads.ask (fun segment heard asked => ?_) fun _ _ _ => nofun)
  cases segment with
  | none =>
      rintro _ ⟨⟩
      exact .unsegmented asked
  | some segment =>
      by_cases external : segment.kind = .externalNet
      · simp only [external, bne_self_eq_false, Bool.false_eq_true, if_false]
        cases wired : segment.physicalNetwork with
        | none =>
            rintro _ ⟨⟩
            exact .unwired asked external wired
        | some physnet =>
            refine Task.leads_bind.mpr (Task.Leads.ask (fun subnet later known => ?_) fun _ _ _ => nofun)
            cases subnet with
            | none => exact nofun
            | some subnet =>
                simp only
                split
                · next v6 =>
                    rintro _ ⟨⟩
                    exact .unrouted asked external wired known (Bool.or_eq_true_iff.mp v6)
                · next v4 =>
                    rintro _ ⟨⟩
                    exact .planned asked external wired known (Bool.or_eq_false_iff.mp (Bool.eq_false_iff.mpr v4))
      · simp only [bne_iff_ne.mpr external, if_true]
        rintro _ ⟨⟩
        exact .internal asked external

theorem leads_planGateway_addressed (steady : sync.outside.Steady) :
    Task.Leads (sync.planGateway gateway) site fun result _ =>
      ∀ plan, result = .ok (some plan) → sync.Addressed gateway plan := by
  have always {α : Type} {query : Query α} {answer : Except CloudError α} {before state : ω}
      (answered : sync.outside.ask query before = (answer, state)) (later : ω) :
      (sync.outside.ask query later).1 = answer := by rw [steady query before later, answered]
  apply leads_planGateway_resolves.mono
  intro result _ resolves plan done
  cases resolves (some plan) done with
  | planned asked external wired known => exact ⟨_, _, external, always asked, always known, wired, rfl, rfl⟩

theorem plans_of_known (steady : sync.outside.Steady) (known : ((sync.planGateway gateway).run site).1 = .ok planned) :
    sync.Plans (some gateway) planned := by
  refine ⟨fun later => ?_, ?_⟩
  · rw [← known]
    exact planGateway_of_alike ⟨steady _ _ _, fun _ _ _ _ _ => steady _ _ _⟩
  · rintro plan rfl
    have addressed : Task.Leads (sync.planGateway gateway) site _ := leads_planGateway_addressed steady
    exact addressed plan known

include cabling alone served steady

omit steady in
theorem leads_addGateway_added (sound : site.store.Sound) (vacant : Vacant site.store router.id) :
    Task.Leads (sync.addGateway router gateway) site fun result after => result = .ok () →
      ∃ planned, ((sync.planGateway gateway).run site).1 = .ok planned ∧
        (((∀ plan, planned = some plan → sync.topology.bordersOf plan.physnet = []) ∧ after.store = site.store ∧
            after.calls = site.calls) ∨
          ∃ plan l3 base, planned = some plan ∧ sync.topology.bordersOf plan.physnet ≠ [] ∧
            (SegmentPool.allocate ⟨.l3Segment, ranges.l3⟩ .free router.id).run site.store = (.ok l3, base) ∧
            Added sync router gateway ranges base site.calls after (some plan)) := by
  have pool : sync.allocators.l3 = ⟨.l3Segment, ranges.l3⟩ := by rw [served]; rfl
  unfold addGateway
  apply Task.Leads.bind leads_planGateway.known
  · rintro planned mid ⟨known, store, silent⟩
    cases planned with
    | none => exact fun _ => ⟨none, known, Or.inl ⟨nofun, store, silent⟩⟩
    | some plan =>
        simp only
        split
        · next nowhere =>
            refine fun _ => ⟨some plan, known, Or.inl ⟨fun other same => ?_, store, silent⟩⟩
            cases same
            exact List.isEmpty_iff.mp nowhere
        · next carried =>
            apply Task.leads_bind.mpr
            apply (Task.leads_store alone).mpr
            rw [pool, store]
            rcases given : (SegmentPool.allocate ⟨.l3Segment, ranges.l3⟩ .free router.id).run site.store with
              ⟨e | l3, base⟩
            · exact nofun
            · obtain ⟨baseSound, still, routed⟩ := drawn_l3 sound vacant given
              apply (leads_legs cabling alone served baseSound still routed).mono
              rintro _ after added rfl
              have some_leaf : sync.topology.bordersOf plan.physnet ≠ [] := fun none => carried (List.isEmpty_iff.mpr none)
              exact ⟨some plan, known, Or.inr ⟨plan, l3, base, rfl, some_leaf, rfl, silent ▸ added⟩⟩
  · exact nofun

theorem leads_addGateway_stands (sound : site.store.Sound) (vacant : Vacant site.store router.id) :
    Task.Leads (sync.addGateway router gateway) site fun result after =>
      result = .ok () → SetUp sync router ranges site.calls after (some gateway) := by
  apply (leads_addGateway_added cabling alone served sound vacant).mono
  intro result after added done
  obtain ⟨planned, known, ⟨idle, store, silent⟩ | ⟨plan, l3, base, rfl, _, given, added⟩⟩ := added done
  · exact ⟨planned, site.store, plans_of_known steady known, sound, vacant, .nothing planned idle store silent⟩
  · obtain ⟨baseSound, still, _⟩ := drawn_l3 sound vacant given
    exact ⟨some plan, base, plans_of_known steady known, baseSound, still, added⟩

theorem leads_createRouter_stands (sound : site.store.Sound) (vacant : Vacant site.store router.id) :
    Task.Leads (sync.createRouter router) site fun result after =>
      ∀ l3, result = .ok l3 → SetUp sync router ranges site.calls after router.externalGateway := by
  have pool : sync.allocators.l3 = ⟨.l3Segment, ranges.l3⟩ := by rw [served]; rfl
  unfold createRouter
  apply Task.leads_bind.mpr
  apply (Task.leads_store alone).mpr
  rw [pool]
  rcases given : (SegmentPool.allocate ⟨.l3Segment, ranges.l3⟩ .free router.id).run site.store with ⟨e | l3, base⟩
  · exact nofun
  · obtain ⟨baseSound, still, _⟩ := drawn_l3 sound vacant given
    cases asked : router.externalGateway with
    | none => exact fun _ _ => ⟨baseSound, still, rfl⟩
    | some gateway =>
        apply Task.leads_bind.mpr
        apply Task.leads_attempt.mpr
        apply (leads_addGateway_stands cabling alone served steady baseSound still).mono
        intro result mid stands
        cases result with
        | ok _ => exact fun _ _ => stands rfl
        | error e =>
            apply Task.leads_bind.mpr
            apply Task.leads_ignore.mpr
            apply (Task.leads_store alone).mpr
            exact nofun

omit steady in
theorem leads_removeGateway_stands (stands : SetUp sync router ranges calls site (some gateway)) :
    Task.Leads (sync.removeGateway router gateway) site fun result after =>
      result = .ok () ∧ after.store.Sound ∧ Vacant after.store router.id ∧
        ∃ undone, after.calls = calls ++ undone ∧ ∀ switch, Cleared undone switch := by
  obtain ⟨planned, base, plans, sound, vacant, added⟩ := stands
  apply (leads_removeGateway cabling alone served sound vacant added (plans.1 site) rfl).mono
  rintro _ after ⟨rfl, store, plan, l2, l3, legs, _, pushed, dropped⟩
  rw [pushed, List.append_assoc] at dropped
  exact ⟨rfl, store ▸ sound, store ▸ vacant, _, dropped, fun switch => cleared_withdrawn⟩

theorem leads_updateRouter (same : updated.id = original.id)
    (stands : SetUp sync original ranges calls site original.externalGateway) :
    Task.Leads (sync.updateRouter original updated) site fun result after => result = .ok () →
      ∃ undone router, router.id = original.id ∧ (∀ switch, Cleared undone switch) ∧
        SetUp sync router ranges (calls ++ undone) after (followed original updated) := by
  unfold updateRouter followed
  cases old : original.externalGateway with
  | none =>
      rw [old] at stands
      obtain ⟨sound, vacant, called⟩ := stands
      cases new : updated.externalGateway with
      | none => exact fun _ => ⟨[], original, rfl, fun _ => cleared_nil, sound, vacant,
        called.trans (List.append_nil _).symm⟩
      | some gateway =>
          apply (leads_addGateway_stands cabling alone served steady sound (same.symm ▸ vacant)).mono
          intro result after stands done
          exact ⟨[], updated, same, fun _ => cleared_nil, by simpa [called] using stands done⟩
  | some gateway =>
      rw [old] at stands
      cases new : updated.externalGateway with
      | none =>
          apply (leads_removeGateway_stands cabling alone served stands).mono
          rintro _ after ⟨rfl, sound, vacant, undone, called, cleared⟩ _
          exact ⟨undone, original, rfl, cleared, sound, vacant, called⟩
      | some next =>
          simp only
          split
          · exact fun _ => ⟨[], original, rfl, fun _ => cleared_nil, (List.append_nil calls).symm ▸ stands⟩
          · apply (leads_removeGateway_stands cabling alone served stands).bind
            · rintro _ mid ⟨_, sound, vacant, undone, called, cleared⟩
              apply (leads_addGateway_stands cabling alone served steady sound (same.symm ▸ vacant)).mono
              intro result after stands done
              exact ⟨undone, updated, same, cleared, called ▸ stands done⟩
            · rintro e mid ⟨absurd, _⟩
              cases absurd

end Steps

/-- After an update that succeeds the router has VLANs on exactly the leaves of the gateway that is followed, each
of these was told of this gateway last, and every other leaf was told to drop whatever it was told to set up. -/
theorem updated_router_programmed {configuration : Configuration} {outside : Outside ω} (alone : outside.Alone)
    (steady : outside.Steady) (reachable : site.store.Reachable) (vacant : Vacant site.store original.id)
    (same : updated.id = original.id) {programmed : Site ω} :
    let sync := ofConfiguration configuration ranges outside
    (∃ l3, (sync.createRouter original).run site = (.ok l3, programmed)) ∨
      (∃ gateway, original.externalGateway = some gateway ∧
        (sync.addGateway original gateway).run site = (.ok (), programmed)) →
    (sync.updateRouter original updated).run programmed = (.ok (), after) →
    ∃ planned since, sync.Plans (followed original updated) planned ∧ after.calls = site.calls ++ since ∧
      Programmed sync original.id (followed original updated) planned after.store since := by
  intro sync came ran
  have stands : SetUp sync original ranges site.calls programmed original.externalGateway := by
    rcases came with ⟨l3, created⟩ | ⟨gateway, asked, added⟩
    · have leads : Task.Leads (sync.createRouter original) site _ :=
        leads_createRouter_stands rfl alone rfl steady reachable.sound vacant
      exact leads.of_run created l3 rfl
    · have leads : Task.Leads (sync.addGateway original gateway) site _ :=
        leads_addGateway_stands rfl alone rfl steady reachable.sound vacant
      rw [asked]
      exact leads.of_run added rfl
  have leads : Task.Leads (sync.updateRouter original updated) programmed _ :=
    leads_updateRouter rfl alone rfl steady same stands
  obtain ⟨undone, router, its, cleared, stands⟩ := leads.of_run ran rfl
  exact its ▸ programmed_of_setUp stands cleared

theorem updated_router_programmed_on_two_leaves :
    let sync : Synchronizer Unit := ofConfiguration .bordered .bordered
      (.refusing (fun _ => false) ⟨"wide", "ext", "10.9.0.0/24", some (.v4 ⟨10, 9, 0, 1⟩)⟩ none)
    let old : ExternalGateway := ⟨"ext", "wide", .v4 ⟨10, 9, 0, 5⟩⟩
    let new : ExternalGateway := ⟨"far", "wide", .v4 ⟨10, 9, 0, 6⟩⟩
    let original : Router := ⟨"router", "tenant", some old⟩
    let updated : Router := ⟨"router", "tenant", some new⟩
    let created := sync.after (.routerCreated ⟨"router", "tenant", none⟩) ⟨.bordered, [], ()⟩
    ∃ programmed after planned since, (sync.addGateway original old).run created = (.ok (), programmed) ∧
      (sync.updateRouter original updated).run programmed = (.ok (), after) ∧ sync.Plans (some new) planned ∧
      sync.endsOf planned = ["10.0.0.8", "10.0.0.9"] ∧ after.calls = created.calls ++ since ∧
      Programmed sync "router" (some new) planned after.store since := by
  intro sync old new original updated created
  have reachable : created.store.Reachable :=
    .handled (.routerCreated ⟨"router", "tenant", none⟩) .bordered Configuration.check_bordered fun _ => rfl
  let base : Store := { Store.bordered with l3 := [⟨none, 100, "router"⟩] }
  have laid : created.store = base := by decide +kernel
  have ungated : Ungated created.store original := ⟨by decide, by decide +kernel, by decide +kernel⟩
  have succeeds : ((sync.addGateway original old).run created).1 = .ok () := by decide +kernel
  obtain ⟨programmed, added⟩ := Task.run_of_result succeeds
  -- The way back is known from the theory, since sorting the leaves does not compute.
  obtain ⟨after, ran⟩ : ∃ after, (sync.updateRouter original updated).run programmed = (.ok (), after) := by
    have adds : Task.Leads (sync.addGateway original old) created _ :=
      leads_gateway rfl (fun _ => rfl) rfl reachable.sound ungated (by decide +kernel)
    obtain ⟨planned, known, came⟩ := adds.of_run added
    have removes : Task.Leads (sync.removeGateway original old) programmed _ :=
      leads_removeGateway rfl (fun _ => rfl) rfl reachable.sound ungated.vacant came (known ▸ rfl) rfl
    obtain ⟨done, store, -⟩ := removes
    obtain ⟨⟨left, record, _⟩, removed⟩ := Task.run_of_result done
    rw [removed, laid] at store
    have returned : left = base := store
    subst returned
    have again : ((sync.addGateway updated new).run ⟨base, record, ()⟩).1 = .ok () := rfl
    obtain ⟨after, readded⟩ := Task.run_of_result again
    refine ⟨after, ?_⟩
    have steps : sync.updateRouter original updated = (do sync.removeGateway original old; sync.addGateway updated new) := rfl
    rw [steps, Task.run_bind, removed]
    exact readded
  obtain ⟨planned, since, plans, called, programs⟩ := updated_router_programmed (fun _ => rfl)
    (fun query _ _ => by cases query <;> rfl) reachable ungated.vacant (show updated.id = original.id from rfl)
    (.inr ⟨old, rfl, added⟩) ran
  have ends : ((sync.planGateway new).run created).1.toOption.map sync.endsOf = some ["10.0.0.8", "10.0.0.9"] := by
    decide +kernel
  rw [plans.1 created] at ends
  exact ⟨programmed, after, planned, since, added, ran, plans, Option.some.inj ends, called, programs⟩

/-- A router that only gets another address in the network of its gateway keeps the old one on its leaves. -/
theorem readdressed_router_not_programmed :
    let outside : Outside Unit :=
      .refusing (fun _ => false) ⟨"wide", "ext", "10.9.0.0/24", some (.v4 ⟨10, 9, 0, 1⟩)⟩ none
    let sync : Synchronizer Unit := ofConfiguration .bordered .bordered outside
    let original : Router := ⟨"router", "tenant", some ⟨"ext", "wide", .v4 ⟨10, 9, 0, 5⟩⟩⟩
    let updated : Router := ⟨"router", "tenant", some ⟨"ext", "wide", .v4 ⟨10, 9, 0, 6⟩⟩⟩
    outside.Alone ∧ outside.Steady ∧ (∀ call state, (outside.send call state).1 = .ok ()) ∧
      Configuration.bordered.check = .ok .bordered ∧ Store.bordered.Reachable ∧ Vacant .bordered original.id ∧
      ∃ l3 programmed after, (sync.createRouter original).run ⟨.bordered, [], ()⟩ = (.ok l3, programmed) ∧
        (sync.updateRouter original updated).run programmed = (.ok (), after) ∧
        ¬ ∃ planned, sync.Plans updated.externalGateway planned ∧
          Programmed sync updated.id updated.externalGateway planned after.store after.calls := by
  intro outside sync original updated
  let site : Site Unit := ⟨.bordered, [], ()⟩
  let gateway : ExternalGateway := ⟨"ext", "wide", .v4 ⟨10, 9, 0, 6⟩⟩
  have creates : ((sync.createRouter original).run site).1 = .ok ⟨100, by decide, by decide⟩ := by decide +kernel
  have updates : ((sync.updateRouter original updated).run ((sync.createRouter original).run site).2).1 = .ok () := by
    decide +kernel
  let readdressed : Option GatewayCidr := Subnet.addressCidr ⟨"wide", "ext", "10.9.0.0/24", none⟩ gateway.fixedIp
  have stale : ∀ request ∈ ((sync.updateRouter original updated).run
      ((sync.createRouter original).run site).2).2.calls.filterMap pushedL2, request.gateway ≠ readdressed := by decide +kernel
  obtain ⟨programmed, created⟩ := Task.run_of_result creates
  rw [created] at updates stale
  obtain ⟨after, ran⟩ := Task.run_of_result updates
  rw [ran] at stale
  refine ⟨fun _ => rfl, fun query _ _ => by cases query <;> rfl, fun _ _ => rfl, Configuration.check_bordered, .bordered,
    ⟨by decide +kernel, by decide +kernel⟩, _, programmed, after, created, ran, ?_⟩
  rintro ⟨planned, plans, programs⟩
  have known : ((sync.planGateway gateway).run site).1 = .ok (some ⟨"out", readdressed,
      Subnet.addressCidr ⟨"wide", "ext", "10.9.0.0/24", none⟩ (.v4 ⟨10, 9, 0, 1⟩)⟩) := by decide +kernel
  cases known.symm.trans (plans.1 site)
  obtain ⟨before, rest, l2, vrf, split, _, ⟨_, _, _, pushed⟩, _⟩ :=
    programs.told gateway rfl _ rfl "10.0.0.8" (by decide +kernel)
  have member : Call.pushL2 l2 ∈ after.calls := split ▸ List.mem_append_right _ (.head _)
  exact stale l2 (List.mem_filterMap.mpr ⟨_, member, rfl⟩) pushed

end Synchronizer
end OverlayFabric
