import OverlayFabric.Proofs.Pool.Ownership
import OverlayFabric.Proofs.Synchronizer.Follow
import OverlayFabric.Proofs.Synchronizer.Undisturbed

namespace OverlayFabric

def Configuration.bordersOn (configuration : Configuration) (physnet : String) : List (String × List String) :=
  configuration.borderSwitches.pairs.filterMap fun (switch, border) =>
    (border.physnetPorts.get? physnet).map fun interfaces => (switch, interfaces)

theorem Topology.bordersOf_ofConfiguration {configuration : Configuration} {physnet : String} :
    (Topology.ofConfiguration configuration).bordersOf physnet = configuration.bordersOn physnet := by
  unfold bordersOf ofConfiguration
  rw [List.filterMap_map]
  rfl

namespace Pool

variable {pool : Pool} {keys : List (Option String × Int)} {rows : List PoolRow} {owner : String}
  {scope : Option String} {id : Nat} {rangesOf : Option String → RangeSet}

theorem holds_lend {id : Int} (own : ∀ row ∈ rows, row.owner = owner → pool.key row ∈ keys) :
    pool.Holds (pool.lend keys owner rows) scope id owner ↔
      (pool.scopeOf scope, id) ∈ keys ∧ ∃ row ∈ rows, pool.key row = (pool.scopeOf scope, id) := by
  constructor
  · rintro ⟨row, member, key, owned⟩
    rcases mem_lend.mp member with ⟨known, kept⟩ | ⟨before, known, given, rfl⟩
    · exact absurd (own row known owned) kept
    · rw [key_setOwner] at key
      exact ⟨key ▸ given, before, known, key⟩
  · rintro ⟨given, row, known, key⟩
    exact ⟨row.setOwner owner, mem_lend.mpr (Or.inr ⟨row, known, key ▸ given, rfl⟩), key_setOwner.trans key, rfl⟩

theorem holds_lend_only {id other : Int} (unscoped : pool.isScoped = false)
    (own : ∀ row ∈ rows, row.owner = owner → row.id = id) (present : ∃ row ∈ rows, row.id = id) :
    pool.Holds (pool.lend [(none, id)] owner rows) none other owner ↔ other = id := by
  have key (row : PoolRow) : pool.key row = (none, row.id) := Prod.ext (scopeOf_of_unscoped unscoped) rfl
  have mine : ∀ row ∈ rows, row.owner = owner → pool.key row ∈ [(none, id)] := fun row member owned => by
    rw [key, own row member owned, List.mem_singleton]
  rw [holds_lend mine, scopeOf_of_unscoped unscoped]
  constructor
  · rintro ⟨given, _⟩
    exact congrArg Prod.snd (List.mem_singleton.mp given)
  · rintro rfl
    obtain ⟨row, member, same⟩ := present
    exact ⟨.head _, row, member, by rw [key, same]⟩

theorem lend_of_held (held : ∀ row ∈ rows, pool.key row ∈ keys → row.owner = owner) :
    pool.lend keys owner rows = rows := by
  unfold lend
  refine (List.map_congr_left fun row member => ?_).trans (List.map_id rows)
  split
  · next given => rw [← held row member given]; rfl
  · rfl

theorem Lendable.free (lendable : pool.Lendable rangesOf keys rows) (given : (pool.scopeOf scope, (id : Int)) ∈ keys)
    (present : ∃ row ∈ rows, pool.key row = (pool.scopeOf scope, (id : Int))) :
    pool.Holds rows scope id "" ∧ (rangesOf (pool.scopeOf scope)).contains id = true := by
  obtain ⟨row, member, key⟩ := present
  obtain ⟨free, inside⟩ := lendable row member (key ▸ given)
  have its : row.id = id := congrArg Prod.snd key
  rw [covers, key, its, Int.toNat_natCast] at inside
  exact ⟨⟨row, member, key, free⟩, inside⟩

end Pool

structure Store.Thrifty (store : Store) : Prop where
  sound : store.Sound
  single : Pool.l3Segment.Single store.l3

variable {ω : Type} {store base before after : Store} {ranges : PoolRanges} {owner : String} {l2 l3 : SegmentId}
  {legs : List Synchronizer.BorderLeg}

theorem Store.Thrifty.wrought {kept : String → Prop} (thrifty : before.Thrifty) (proper : ranges.Proper)
    (wrought : Wrought ((Allocators.ofRanges ranges).Acts kept) before after) : after.Thrifty := by
  induction wrought with
  | refl => exact thrifty
  | tail _ work ih =>
      obtain ⟨pool, op, does, rfl⟩ := work
      have sound := ih.sound.act (does.proper proper)
      cases does with
      | l2 | border => exact ⟨sound, ih.single⟩
      | l3 lock action granted =>
          have distinct := (ih.sound.pools .l3Segment).distinct
          exact ⟨sound, ih.single.after distinct (Pool.admits_of_unscoped rfl) granted⟩

namespace Synchronizer

section Thrift

variable {sync : Synchronizer ω} {site : Site ω}

theorem thrifty_after {event : Event} (alone : sync.outside.Alone) (proper : ranges.Proper)
    (served : sync.allocators = .ofRanges ranges) (thrifty : site.store.Thrifty) :
    (sync.after event site).store.Thrifty := by
  cases onLeaves : event.isOnLeaves with
  | true =>
      refine ⟨sound_after alone proper served thrifty.sound, ?_⟩
      have drawn := (moves_after alone thrifty.sound.settled onLeaves).drawn
      rw [served] at drawn
      rcases drawn with same | ⟨_, drawer, _, drew⟩
      · have same : (sync.after event site).store.l3 = site.store.l3 := same
        rw [same]
        exact thrifty.single
      · rw [SegmentPool.drawn, Store.rows_act] at drew
        have drew : (sync.after event site).store.l3 = Pool.l3Segment.after site.store.l3 _ := drew
        rw [drew]
        have granted (id : Nat) (owner : String) : Pool.Action.allocate drawer ≠ .reserve id owner := by simp
        exact thrifty.single.after (thrifty.sound.pools .l3Segment).distinct (Pool.admits_of_unscoped rfl) granted
  | false =>
      have spares : event.Spares fun _ => False := by cases event <;> simp [Event.Spares]
      have works : Task.Works (sync.allocators.Acts fun _ => False) (sync.handle event) := works_handle onLeaves spares
      rw [served] at works
      exact thrifty.wrought proper (works site)

theorem thrifty_start (proper : ranges.Proper) (served : sync.allocators = .ofRanges ranges)
    (thrifty : site.store.Thrifty) : (sync.start.run site).2.store.Thrifty := by
  have works : Task.Works (sync.allocators.Acts fun _ => False) sync.start := works_start fun _ => id
  rw [served] at works
  exact thrifty.wrought proper (works site)

end Thrift

end Synchronizer

theorem Store.Reachable.thrifty (reachable : store.Reachable) : store.Thrifty := by
  induction reachable with
  | empty => exact ⟨sound_empty, fun a member => by cases member⟩
  | started _ checked ih => exact Synchronizer.thrifty_start (Configuration.proper_of_check checked) rfl ih
  | handled event _ checked alone ih =>
      exact Synchronizer.thrifty_after alone (Configuration.proper_of_check checked) rfl ih

theorem Store.Thrifty.given_l3 (thrifty : store.Thrifty) (named : owner ≠ "")
    (given : (SegmentPool.allocate ⟨.l3Segment, ranges.l3⟩ .free owner).run store = (.ok l3, base)) :
    base = { store with l3 := Pool.l3Segment.lend [(none, l3.val)] owner store.l3 } ∧
      (∀ id, Pool.l3Segment.Holds (Pool.l3Segment.lend [(none, l3.val)] owner store.l3) none id owner ↔ id = l3.val) ∧
      (Pool.l3Segment.Holds store.l3 none l3.val owner ∨
        Pool.l3Segment.Holds store.l3 none l3.val "" ∧ ranges.l3.contains l3.val = true) := by
  have sound := thrifty.sound.pools .l3Segment
  obtain ⟨_, ⟨rfl, own, known, its, same⟩ | ⟨rfl, unheld, lendable, row, known, same⟩⟩ :=
    @SegmentPool.given_cases ⟨.l3Segment, ranges.l3⟩ store owner base l3 rfl sound given
  · have key : Pool.l3Segment.key own = (none, (l3.val : Int)) := Prod.ext rfl same
    have only : ∀ other ∈ base.l3, other.owner = owner → other.id = l3.val := fun other also mine => by
      rw [thrifty.single other also own known rfl (mine.trans its.symm) (mine ▸ named), same]
    refine ⟨?_, fun id => Pool.holds_lend_only rfl only ⟨own, known, same⟩, Or.inl ⟨own, known, key, its⟩⟩
    rw [Pool.lend_of_held fun other also taken => ?_]
    rw [sound.distinct.eq_of_key also known ((List.mem_singleton.mp taken).trans key.symm), its]
  · have key : Pool.l3Segment.key row = (none, (l3.val : Int)) := Prod.ext rfl same
    refine ⟨rfl, fun id => ?_, Or.inr (lendable.free (.head _) ⟨row, known, key⟩)⟩
    exact Pool.holds_lend_only rfl (fun other also mine => absurd mine (unheld other also)) ⟨row, known, same⟩

namespace Synchronizer

variable {sync : Synchronizer ω} {site done : Site ω} {router : Router} {gateway : ExternalGateway}
  {configuration : Configuration} {plan : GatewayPlan}

/-- What a router comes by with its gateway, and what the leaves are told of it. -/
structure Gated (router : Router) (gateway : ExternalGateway) (plan : GatewayPlan) (ranges : PoolRanges)
    (l2 l3 : SegmentId) (legs : List BorderLeg) (site done : Site ω) : Prop where
  route : ∀ id, Pool.l3Segment.Holds done.store.l3 none id router.id ↔ id = l3.val
  segment : ∀ id, Pool.l2Segment.Holds done.store.l2 none id router.id ↔ id = l2.val
  vlans : ∀ switch id, Pool.borderVlan.Holds done.store.border (some switch) id router.id ↔
    ∃ leg ∈ legs, leg.switch = switch ∧ leg.vlan.val = id
  routed : Pool.l3Segment.Holds site.store.l3 none l3.val router.id ∨
    Pool.l3Segment.Holds site.store.l3 none l3.val "" ∧ ranges.l3.contains l3.val = true
  fresh : Pool.l2Segment.Holds site.store.l2 none l2.val "" ∧ ranges.l2.contains l2.val = true
  free : ∀ leg ∈ legs, Pool.borderVlan.Holds site.store.border (some leg.switch) leg.vlan.val "" ∧
    (BorderPool.rangesOf ⟨ranges.border⟩ leg.switch).contains leg.vlan.val = true
  rest : done.store = { site.store with
    l2 := Pool.l2Segment.lend [(none, l2.val)] router.id site.store.l2
    l3 := Pool.l3Segment.lend [(none, l3.val)] router.id site.store.l3
    border := Pool.borderVlan.lend (legs.map fun leg => (some leg.switch, leg.vlan.val)) router.id site.store.border }
  told : done.calls = site.calls ++ legs.flatMap fun leg =>
    [.pushL2 {
        switch := leg.switch, projectId := router.projectId, networkId := gateway.networkId, routerId := some router.id
        vni := l2, vlan := leg.vlan, interfaces := leg.interfaces, gateway := plan.border },
      .pushVrf {
        switch := leg.switch, mode := .create, projectId := router.projectId, networkId := gateway.networkId
        routerId := router.id, routerVni := l3, l2Vni := none, vlan := leg.vlan, gateway := plan.route
        isExternal := true }]

theorem holds_legs (laid : Laid base ranges l2 legs) (unheld : ∀ row ∈ base.border, row.owner ≠ owner) {switch : String}
    {id : Int} : Pool.borderVlan.Holds (Pool.borderVlan.lend (legs.map BorderLeg.key) owner base.border) (some switch) id
      owner ↔ ∃ leg ∈ legs, leg.switch = switch ∧ leg.vlan.val = id := by
  rw [Pool.holds_lend fun row member owned => absurd owned (unheld row member)]
  constructor
  · rintro ⟨given, _⟩
    obtain ⟨leg, among, key⟩ := List.mem_map.mp given
    exact ⟨leg, among, Option.some.inj (congrArg Prod.fst key), congrArg Prod.snd key⟩
  · rintro ⟨leg, among, rfl, rfl⟩
    exact ⟨List.mem_map_of_mem among, laid.listed leg.leaf (List.mem_map_of_mem among)⟩

theorem Standing.gated (standing : Standing sync router gateway plan l2 l3 base ranges site.calls legs
      (legs.flatMap (setting router gateway plan l2 l3)) done)
    (thrifty : site.store.Thrifty) (ungated : Ungated site.store router)
    (given : (SegmentPool.allocate ⟨.l3Segment, ranges.l3⟩ .free router.id).run site.store = (.ok l3, base)) :
    Gated router gateway plan ranges l2 l3 legs site done := by
  obtain ⟨based, only, routed⟩ := thrifty.given_l3 ungated.named given
  have laid := standing.laid
  have now := standing.now
  rw [based] at laid now
  obtain ⟨row, known, same⟩ := laid.present
  refine ⟨?_, ?_, ?_, routed, ?_, fun leg among => ?_, now, standing.called⟩
  · rw [now]
    exact only
  · rw [now]
    exact fun id => Pool.holds_lend_only rfl (fun row member owned => absurd owned (ungated.l2 row member)) laid.present
  · rw [now]
    exact fun switch id => holds_legs laid ungated.border
  · exact laid.segment.free (.head _) ⟨row, known, Prod.ext rfl same⟩
  · exact laid.vlans.free (List.mem_map_of_mem among) (laid.listed leg.leaf (List.mem_map_of_mem among))

inductive Provisioned (configuration : Configuration) (router : Router) (gateway : ExternalGateway)
    (ranges : PoolRanges) (site done : Site ω) : Option GatewayPlan → Prop where
  | idle {planned : Option GatewayPlan}
      (nowhere : ∀ plan, planned = some plan → configuration.bordersOn plan.physnet = [])
      (kept : done.store = site.store) (silent : done.calls = site.calls) :
      Provisioned configuration router gateway ranges site done planned
  | gated {plan : GatewayPlan} {l2 l3 : SegmentId} {legs : List BorderLeg} (carried : legs ≠ [])
      (whole : legs.map (fun leg => (leg.switch, leg.interfaces)) = configuration.bordersOn plan.physnet)
      (ascending : legs.Pairwise fun a b => a.switch < b.switch)
      (gated : Gated router gateway plan ranges l2 l3 legs site done) :
      Provisioned configuration router gateway ranges site done (some plan)

theorem leads_addGateway_provisioned (cabling : sync.topology = .ofConfiguration configuration)
    (alone : sync.outside.Alone) (served : sync.allocators = .ofRanges ranges) (thrifty : site.store.Thrifty)
    (ungated : Ungated site.store router) :
    Task.Leads (sync.addGateway router gateway) site fun result done => result = .ok () →
      ∃ planned, ((sync.planGateway gateway).run site).1 = .ok planned ∧
        Provisioned configuration router gateway ranges site done planned := by
  have borders (physnet : String) : sync.topology.bordersOf physnet = configuration.bordersOn physnet := by
    rw [cabling, Topology.bordersOf_ofConfiguration]
  apply (leads_addGateway_added cabling alone served thrifty.sound ungated.vacant).mono
  intro result done added finished
  obtain ⟨planned, known, ⟨idle, store, silent⟩ | ⟨plan, l3, base, rfl, carried, given, added⟩⟩ := added finished
  · exact ⟨planned, known, .idle (fun plan same => (borders _).symm.trans (idle plan same)) store silent⟩
  · refine ⟨some plan, known, ?_⟩
    obtain ⟨_, _, found⟩ := drawn_l3 thrifty.sound ungated.vacant given
    cases added with
    | nothing _ idle => exact absurd (idle plan rfl) carried
    | @legs _ _ _ legs bare standing whole =>
        -- The segment of layer 3 that the legs were set up with is the one just given.
        cases bare.l3.symm.trans found
        have some_leg : legs ≠ [] := by
          rintro rfl
          exact carried whole.symm
        exact .gated some_leg (whole.trans (borders _)) standing.laid.ascending (standing.gated thrifty ungated given)

/-- A gateway that is added comes to what the cloud says of it. Without a plan, or where no border switch carries its
physical network, nothing happens. Otherwise the router has one segment of each layer and one VLAN on every border
switch that carries the network, and each of these is told in turn of the segment, the VLAN and the route. -/
theorem added_gateway_on_every_border_leaf {outside : Outside ω} (reachable : site.store.Reachable)
    (ungated : Ungated site.store router)
    (ran : ((ofConfiguration configuration ranges outside).addGateway router gateway).run site = (.ok (), done)) :
    ∃ planned, Resolves outside gateway site.outside planned ∧
      Provisioned configuration router gateway ranges site done planned := by
  let sync := ofConfiguration configuration ranges outside
  have leads : Task.Leads ((sync.facing outside.undisturbed).addGateway router gateway) site _ :=
    leads_addGateway_provisioned rfl (fun _ => rfl) rfl reachable.thrifty ungated
  obtain ⟨planned, known, provisioned⟩ := leads.of_run (repeats_addGateway site () done ran) rfl
  have resolves : Task.Leads (sync.planGateway gateway) site _ := leads_planGateway_resolves
  exact ⟨planned, resolves planned known, provisioned⟩

theorem added_gateway_on_two_border_leaves :
    let subnet : Subnet := ⟨"wide", "ext", "10.9.0.0/24", some (.v4 ⟨10, 9, 0, 1⟩)⟩
    let outside : Outside Unit := .refusing (fun _ => false) subnet none
    let sync := ofConfiguration .bordered .bordered outside
    let gateway : ExternalGateway := ⟨"ext", "wide", .v4 ⟨10, 9, 0, 5⟩⟩
    let router : Router := ⟨"router", "tenant", none⟩
    let created := sync.after (.routerCreated router) ⟨.bordered, [], ()⟩
    ∃ done plan l2 l3 legs, (sync.addGateway router gateway).run created = (.ok (), done) ∧
      done.store.border = [⟨some "10.0.0.8", 200, "router"⟩, ⟨some "10.0.0.9", 200, "router"⟩] ∧
      Resolves outside gateway created.outside (some plan) ∧
      legs.map (fun leg => (leg.switch, leg.interfaces)) = Configuration.bordered.bordersOn plan.physnet ∧
      Gated router gateway plan .bordered l2 l3 legs created done := by
  intro subnet outside sync gateway router created
  have succeeds : ((sync.addGateway router gateway).run created).1 = .ok () := by decide +kernel
  have lent : ((sync.addGateway router gateway).run created).2.store.border =
      [⟨some "10.0.0.8", 200, "router"⟩, ⟨some "10.0.0.9", 200, "router"⟩] := by decide +kernel
  obtain ⟨done, ran⟩ := Task.run_of_result succeeds
  rw [ran] at lent
  have reachable : created.store.Reachable :=
    .handled (.routerCreated router) .bordered Configuration.check_bordered fun _ => rfl
  have ungated : Ungated created.store router := ⟨by decide, by decide +kernel, by decide +kernel⟩
  obtain ⟨planned, resolves, provisioned⟩ := added_gateway_on_every_border_leaf reachable ungated ran
  cases provisioned with
  | idle _ kept =>
      have untouched : created.store.border ≠ [⟨some "10.0.0.8", 200, "router"⟩, ⟨some "10.0.0.9", 200, "router"⟩] := by
        decide +kernel
      exact absurd (kept ▸ lent) untouched
  | @gated plan l2 l3 legs _ whole _ gated => exact ⟨done, plan, l2, l3, legs, ran, lent, resolves, whole, gated⟩

end Synchronizer

end OverlayFabric
