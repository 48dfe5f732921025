import OverlayFabric.Proofs.Binding.Count
import OverlayFabric.Proofs.Synchronizer.Run

namespace OverlayFabric
open Synchronizer

namespace VrfMode

variable {present : Bool}

theorem isPush_forPush : (forPush present).isPush = true := by
  cases present <;> rfl

theorem isPush_forRetract : (forRetract present).isPush = false := by
  cases present <;> rfl

theorem forPush_eq_create : forPush present = .create ↔ present = false := by
  cases present <;> simp [forPush]

theorem forPush_eq_attach : forPush present = .attach ↔ present = true := by
  cases present <;> simp [forPush]

theorem forRetract_eq_delete : forRetract present = .delete ↔ present = true := by
  cases present <;> simp [forRetract]

theorem forRetract_eq_detach : forRetract present = .detach ↔ present = false := by
  cases present <;> simp [forRetract]

end VrfMode

namespace Sent

/-- An interface of the router that the switch accepted. -/
def gives (switch router : String) (sent : Sent) : Bool :=
  match sent.call with
  | .pushVrf request => sent.accepted && request.switch == switch && request.routerId == router && !request.isExternal
  | _ => false

/-- An interface of the router that the switch was told to drop, heeded or not. -/
def takes (switch router : String) (sent : Sent) : Bool :=
  match sent.call with
  | .retractVrf request => request.switch == switch && request.routerId == router && !request.isExternal
  | _ => false

end Sent

def interfaces (record : List Sent) (switch router : String) : Int :=
  record.countP (Sent.gives switch router) - record.countP (Sent.takes switch router)

def Fits (before : List Sent) (sent : Sent) : Prop :=
  match sent.call with
  | .pushVrf request => request.isExternal = false ∧ 0 ≤ interfaces before request.switch request.routerId ∧
      request.mode = .forPush (decide (0 < interfaces before request.switch request.routerId))
  | .retractVrf request => request.isExternal = false ∧ 0 < interfaces before request.switch request.routerId ∧
      request.mode = .forRetract (decide (interfaces before request.switch request.routerId = 1))
  | .pushL2 _ | .retractL2 _ => True

section Record

variable {record : List Sent} {sent : Sent} {switch router : String}

theorem interfaces_append : interfaces (record ++ [sent]) switch router =
    interfaces record switch router + (if sent.gives switch router then 1 else 0) -
      if sent.takes switch router then 1 else 0 := by
  unfold interfaces
  simp only [List.countP_append, List.countP_singleton]
  split <;> split <;> omega

variable {binding : Binding} {interface : RouterInterface} {l3 : SegmentId} {gateway : Option GatewayCidr}
  {mode : VrfMode} {accepted : Bool}

theorem gives_push : Sent.gives switch router ⟨.pushVrf (interfaceRequest binding interface l3 gateway mode), true⟩ =
    true ↔ binding.switch = switch ∧ interface.routerId = router := by
  simp [Sent.gives, interfaceRequest]

theorem takes_push : Sent.takes switch router
    ⟨.pushVrf (interfaceRequest binding interface l3 gateway mode), accepted⟩ = false := rfl

theorem gives_retract : Sent.gives switch router
    ⟨.retractVrf (interfaceRequest binding interface l3 gateway mode), accepted⟩ = false := rfl

theorem takes_retract : Sent.takes switch router
    ⟨.retractVrf (interfaceRequest binding interface l3 gateway mode), accepted⟩ = true ↔
      binding.switch = switch ∧ interface.routerId = router := by
  simp [Sent.takes, interfaceRequest]

end Record

namespace Synchronizer

variable {ω : Type} {sync : Synchronizer ω} {goal : Option (String × String)} {site after : Site ω}

structure Balanced (site : Site ω) : Prop where
  settled : site.store.bindings.Settled
  counted : ∀ switch router, router ≠ "" →
    interfaces site.record switch router = site.store.bindings.routedOn switch router
  fitting : ∀ before sent rest, site.record = before ++ sent :: rest → Fits before sent

def Unrivalled (goal : Option (String × String)) (site : Site ω) : Prop :=
  ∀ subnet router, goal = some (subnet, router) → ∀ row ∈ site.store.bindings.rows,
    row.subnet = subnet → row.router = "" ∨ row.router = router

theorem Unrivalled.move (unrivalled : Unrivalled goal site) (move : Move sync goal site after) :
    Unrivalled goal after := by
  intro subnet router aim row member named
  cases move with
  | heard => exact unrivalled subnet router aim row member named
  | counted => exact unrivalled subnet router aim row member named
  | drawn => exact unrivalled subnet router aim row (SegmentPool.bindings_drawn ▸ member) named
  | refused => exact unrivalled subnet router aim row member named
  | bound project vlan vni state known reported absent =>
      rcases (Bindings.mem_add_of_absent absent).mp member with rfl | member
      · exact Or.inl rfl
      · exact unrivalled subnet router aim row member named
  | unbound => exact unrivalled subnet router aim row (List.mem_of_mem_filter member) named
  | attachRefused => exact unrivalled subnet router aim row member named
  | attached gateway state held present aimed other =>
      rcases Bindings.mem_route member with member | ⟨routed, _⟩
      · exact unrivalled subnet router aim row member named
      · cases aim.symm.trans aimed
        exact Or.inr routed
  | detached =>
      rcases Bindings.mem_route member with member | ⟨unrouted, _⟩
      · exact unrivalled subnet router aim row member named
      · exact Or.inl unrouted

theorem Unrivalled.moves (unrivalled : Unrivalled goal site) (moves : Moves sync goal site after) :
    Unrivalled goal after := by
  induction moves with
  | refl => exact unrivalled
  | tail _ move ih => exact ih.move move

theorem Balanced.append (balanced : Balanced site) (settled : after.store.bindings.Settled) {sent : Sent}
    (recorded : after.record = site.record ++ [sent]) (fits : Fits site.record sent)
    (counted : ∀ switch router, router ≠ "" →
      (after.store.bindings.routedOn switch router : Int) = site.store.bindings.routedOn switch router +
        (if sent.gives switch router then 1 else 0) - if sent.takes switch router then 1 else 0) :
    Balanced after := by
  refine ⟨settled, fun switch router named => ?_, fun before other rest split => ?_⟩
  · rw [recorded, interfaces_append, balanced.counted switch router named, counted switch router named]
  · rw [recorded] at split
    rcases append_eq_split split with ⟨rfl, rfl⟩ | ⟨rest, split⟩
    · exact fits
    · exact balanced.fitting before other rest split

theorem Balanced.push_fits (balanced : Balanced site) {binding : Binding} {interface : RouterInterface}
    (l3 : SegmentId) (gateway : Option GatewayCidr) (accepted : Bool) (named : interface.routerId ≠ "")
    (present : site.store.bindings.row? binding.switch binding.subnet = some binding.row)
    (other : binding.router ≠ some interface.routerId) :
    Fits site.record ⟨.pushVrf (interfaceRequest binding interface l3 gateway (.forPush
      (site.store.bindings.routesElsewhere binding.switch interface.routerId binding.subnet))), accepted⟩ := by
  have differ : binding.row.router ≠ interface.routerId := fun same =>
    other ((Binding.router_row_eq_iff named).mp same)
  have counted := balanced.counted binding.switch interface.routerId named
  refine ⟨rfl, ?_, ?_⟩
  · simp only [interfaceRequest, counted]
    omega
  · simp only [interfaceRequest, counted, Bindings.routesElsewhere_eq present, if_neg differ, Int.natCast_pos]

theorem Balanced.retract_fits (balanced : Balanced site) {binding : Binding} {interface : RouterInterface}
    (l3 : SegmentId) (gateway : Option GatewayCidr) (accepted : Bool) (named : interface.routerId ≠ "")
    (present : site.store.bindings.row? binding.switch binding.subnet = some binding.row)
    (routed : binding.row.router = interface.routerId) :
    Fits site.record ⟨.retractVrf (interfaceRequest binding interface l3 gateway (.forRetract
      !site.store.bindings.routesElsewhere binding.switch interface.routerId binding.subnet)), accepted⟩ := by
  have counted := balanced.counted binding.switch interface.routerId named
  have positive := Bindings.routedOn_pos present routed
  refine ⟨rfl, ?_, ?_⟩
  · simp only [interfaceRequest, counted]
    omega
  · simp only [interfaceRequest, counted, Bindings.routesElsewhere_eq present, if_pos routed]
    congr 1
    rw [Bool.eq_iff_iff]
    simp only [Bool.not_eq_true', decide_eq_false_iff_not, decide_eq_true_iff]
    omega

theorem Balanced.attach (balanced : Balanced site) {binding : Binding} {interface : RouterInterface}
    (l3 : SegmentId) (gateway : Option GatewayCidr) (state : ω) (named : interface.routerId ≠ "")
    (present : site.store.bindings.row? binding.switch binding.subnet = some binding.row)
    (free : binding.row.router = "") :
    Balanced ((site.took (.pushVrf (interfaceRequest binding interface l3 gateway (.forPush
      (site.store.bindings.routesElsewhere binding.switch interface.routerId binding.subnet)))) true
      state).withBindings (site.store.bindings.route binding.switch binding.subnet interface.routerId l3.val)) := by
  have other : binding.router ≠ some interface.routerId := by
    intro same
    rw [Binding.row_of_routed same] at free
    exact named free
  have fits := balanced.push_fits l3 gateway true named present other
  refine balanced.append (balanced.settled.route l3) rfl fits fun switch router given => ?_
  have counted := @Bindings.routedOn_route _ _ _ interface.routerId switch router _ l3.val present
  rw [free, if_neg fun same => given same.2.symm] at counted
  simp only [Site.bindings_withBindings, gives_push, takes_push, Bool.false_eq_true, if_false]
  by_cases here : binding.switch = switch ∧ interface.routerId = router
  · rw [if_pos here] at counted ⊢
    omega
  · rw [if_neg here] at counted ⊢
    omega

theorem Balanced.detach (balanced : Balanced site) {binding : Binding} {interface : RouterInterface}
    (l3 : SegmentId) (gateway : Option GatewayCidr) (accepted : Bool) (state : ω)
    (named : interface.routerId ≠ "")
    (present : site.store.bindings.row? binding.switch binding.subnet = some binding.row)
    (routed : binding.row.router = interface.routerId) :
    Balanced ((site.took (.retractVrf (interfaceRequest binding interface l3 gateway (.forRetract
      !site.store.bindings.routesElsewhere binding.switch interface.routerId binding.subnet))) accepted
      state).withBindings (site.store.bindings.route binding.switch binding.subnet "" 0)) := by
  have fits := balanced.retract_fits l3 gateway accepted named present routed
  refine balanced.append balanced.settled.unroute rfl fits fun switch router given => ?_
  have counted := @Bindings.routedOn_route _ _ _ "" switch router _ 0 present
  rw [routed, if_neg (c := _ ∧ "" = router) fun same => given same.2.symm] at counted
  simp only [Site.bindings_withBindings, gives_retract, takes_retract, Bool.false_eq_true, if_false]
  by_cases here : binding.switch = switch ∧ interface.routerId = router
  · rw [if_pos here] at counted ⊢
    omega
  · rw [if_neg here] at counted ⊢
    omega

theorem Balanced.move (balanced : Balanced site)
    (aims : ∀ subnet router, goal = some (subnet, router) → router ≠ "")
    (move : Move sync goal site after)
    (unrivalled : (∃ request, after.record = site.record ++ [⟨.pushVrf request, true⟩]) → Unrivalled goal site) :
    Balanced after := by
  have settled := move.settled balanced.settled
  cases move with
  | heard => exact ⟨settled, balanced.counted, balanced.fitting⟩
  | counted => exact ⟨settled, balanced.counted, balanced.fitting⟩
  | drawn =>
      refine ⟨settled, fun switch router named => ?_, balanced.fitting⟩
      exact SegmentPool.bindings_drawn.symm ▸ balanced.counted switch router named
  | refused =>
      refine balanced.append settled rfl trivial fun switch router named => ?_
      simp [Sent.gives, Sent.takes]
  | @bound leaf subnet project vlan vni state known reported absent =>
      refine balanced.append settled rfl trivial fun switch router named => ?_
      have unattached : (leafBinding leaf subnet vlan vni true 0).row.router ≠ router := named.symm
      have same := @Bindings.routedOn_add _ switch router _ absent unattached
      simp [Sent.gives, Sent.takes, same]
  | @unbound leaf subnet binding project accepted state known reported present unrouted =>
      refine balanced.append settled rfl trivial fun switch router named => ?_
      have unattached : binding.row.router ≠ router := by
        rw [Binding.router_row, unrouted]
        exact named.symm
      have same := @Bindings.routedOn_without _ _ _ switch router _ present unattached
      simp [Sent.gives, Sent.takes, same]
  | attachRefused l3 gateway state present aimed other =>
      have fits := balanced.push_fits l3 gateway false (aims _ _ aimed) present other
      refine balanced.append settled rfl fits fun switch router _ => ?_
      simp [Sent.gives, Sent.takes]
  | @attached binding interface l3 gateway state held present aimed other =>
      have given : interface.routerId ≠ "" := aims _ _ aimed
      have member := (Bindings.row?_eq_some_iff.mp present).1
      rcases unrivalled ⟨_, rfl⟩ _ _ aimed binding.row member rfl with free | same
      · exact balanced.attach l3 gateway state given present free
      · exact absurd ((Binding.router_row_eq_iff given).mp same) other
  | @detached binding interface l3 gateway accepted state present routed _ aimed =>
      have given : interface.routerId ≠ "" := by
        rcases aimed with given | ⟨subnet, aimed⟩
        · exact given
        · exact aims subnet _ aimed
      exact balanced.detach l3 gateway accepted state given present routed

def AttachedSince (before after : Site ω) : Prop :=
  ∃ request, ⟨.pushVrf request, true⟩ ∈ after.record.drop before.record.length

theorem AttachedSince.mono {mid : Site ω} (attached : AttachedSince site mid) (kept : mid.record <+: after.record) :
    AttachedSince site after := by
  obtain ⟨request, member⟩ := attached
  obtain ⟨later, split⟩ := kept
  refine ⟨request, ?_⟩
  rw [← split, List.drop_append]
  exact List.mem_append_left _ member

theorem attachedSince_of_last {mid : Site ω} (kept : site.record <+: mid.record) {request : VrfRequest}
    (last : after.record = mid.record ++ [⟨.pushVrf request, true⟩]) : AttachedSince site after := by
  refine ⟨request, ?_⟩
  rw [last, List.drop_append_of_le_length kept.length_le]
  exact List.mem_append_right _ (.head _)

theorem Balanced.moves (balanced : Balanced site) (aims : ∀ subnet router, goal = some (subnet, router) → router ≠ "")
    (moves : Moves sync goal site after) (unrivalled : AttachedSince site after → Unrivalled goal site) :
    Balanced after := by
  induction moves with
  | refl => exact balanced
  | tail earlier move ih =>
      have before := ih fun attached => unrivalled (attached.mono move.keeps_record)
      refine before.move aims move fun ⟨request, last⟩ => ?_
      exact (unrivalled (attachedSince_of_last (Moves.keeps_record earlier) last)).moves earlier

/-- The router that an event is about has a name, and no subnet is attached to it with an event while a
row of the subnet is attached to another. -/
structure OneRouter (sync : Synchronizer ω) (event : Event) (site : Site ω) : Prop where
  named : ∀ subnet router, sync.eventGoal event site.outside = some (subnet, router) → router ≠ ""
  unrivalled : AttachedSince site (sync.after event site) → Unrivalled (sync.eventGoal event site.outside) site

theorem balanced_start (empty : site.store.bindings = .empty) (unsent : site.record = []) : Balanced site := by
  refine ⟨empty ▸ Bindings.settled_empty, fun switch router _ => ?_, fun before sent rest split => ?_⟩
  · rw [empty, unsent]
    rfl
  · simp [unsent] at split

theorem balanced_reaches {start : Site ω} (alone : sync.outside.Alone) (balanced : Balanced start)
    (reached : Reaches sync (fun event site => event.isOnLeaves = true ∧ OneRouter sync event site) start site) :
    Balanced site := by
  induction reached with
  | start => exact balanced
  | step _ may ih =>
      obtain ⟨onLeaves, named, unrivalled⟩ := may
      exact ih.moves named (moves_after alone ih.settled onLeaves) unrivalled

/-- On every switch the interfaces that a router was given less those taken back are the rows attached
to it; a VRF is created with the first interface and deleted with the last. -/
theorem vrf_modes_balanced (alone : sync.outside.Alone) {start : Site ω} (empty : start.store.bindings = .empty)
    (unsent : start.record = [])
    (reached : Reaches sync (fun event site => event.isOnLeaves = true ∧ OneRouter sync event site) start site) :
    (∀ switch router, router ≠ "" → interfaces site.record switch router =
      site.store.bindings.rows.countP fun row => row.switch == switch && row.router == router) ∧
    (∀ before request accepted rest, site.record = before ++ ⟨.pushVrf request, accepted⟩ :: rest →
      request.isExternal = false ∧ request.mode.isPush = true ∧
      (request.mode = .create ↔ interfaces before request.switch request.routerId = 0) ∧
      (request.mode = .attach ↔ 0 < interfaces before request.switch request.routerId)) ∧
    ∀ before request accepted rest, site.record = before ++ ⟨.retractVrf request, accepted⟩ :: rest →
      request.isExternal = false ∧ request.mode.isPush = false ∧
      (request.mode = .delete ↔ interfaces before request.switch request.routerId = 1) ∧
      (request.mode = .detach ↔ 1 < interfaces before request.switch request.routerId) := by
  have balanced := balanced_reaches alone (balanced_start empty unsent) reached
  refine ⟨balanced.counted, fun before request accepted rest split => ?_, fun before request accepted rest split => ?_⟩
  · obtain ⟨inner, least, mode⟩ := balanced.fitting before _ rest split
    rw [mode]
    refine ⟨inner, VrfMode.isPush_forPush, ?_, ?_⟩
    · rw [VrfMode.forPush_eq_create, decide_eq_false_iff_not]
      omega
    · rw [VrfMode.forPush_eq_attach, decide_eq_true_iff]
  · obtain ⟨inner, positive, mode⟩ := balanced.fitting before _ rest split
    rw [mode]
    refine ⟨inner, VrfMode.isPush_forRetract, ?_, ?_⟩
    · rw [VrfMode.forRetract_eq_delete, decide_eq_true_iff]
    · rw [VrfMode.forRetract_eq_detach, decide_eq_false_iff_not]
      omega

theorem vrf_modes_balanced_for_port :
    let interface : RouterInterface := ⟨"router", "inner", "net", "tenant"⟩
    let ranges : RangeSet := { ranges := [⟨100, 100, Nat.le_refl 100⟩] }
    let sync : Synchronizer Unit :=
      ⟨.small ⟨"inner", "net", "10.1.0.0/24", none⟩ (some interface), .ofConfiguration .small,
        .ofRanges ⟨.empty, ranges, .empty⟩, []⟩
    let start : Site Unit := ⟨{ l3 := [⟨none, 100, ""⟩] }, [], ()⟩
    let port : Port := ⟨"port", "net", "tenant", "compute:x", "host", .active⟩
    let segments : PortSegments := ⟨⟨7, by decide, by decide⟩, ⟨5, by decide, by decide⟩, "blue"⟩
    let bound := sync.after (.portBound port segments) start
    interfaces bound.record "10.0.0.1" "router" = 1 ∧
      interfaces (sync.after (.interfaceRemoved interface) bound).record "10.0.0.1" "router" = 0 := by
  intro interface ranges sync start port segments bound
  have binds : OneRouter sync (.portBound port segments) start := by
    have aimed : sync.eventGoal (.portBound port segments) start.outside = some ("inner", "router") := rfl
    refine ⟨fun subnet router aim => ?_, fun _ _ _ _ row member => by cases member⟩
    obtain ⟨rfl, rfl⟩ := Prod.mk.inj (Option.some.inj (aimed.symm.trans aim))
    decide
  have detaches : OneRouter sync (.interfaceRemoved interface) bound := by
    have aimless : sync.eventGoal (.interfaceRemoved interface) bound.outside = none := rfl
    exact ⟨fun _ _ aim => (Option.some_ne_none _ (aim.symm.trans aimless)).elim,
      fun _ _ _ aim => (Option.some_ne_none _ (aim.symm.trans aimless)).elim⟩
  have first : Reaches sync (fun event site => event.isOnLeaves = true ∧ OneRouter sync event site) start bound :=
    .step .start ⟨rfl, binds⟩
  have second : Reaches sync (fun event site => event.isOnLeaves = true ∧ OneRouter sync event site) start
      (sync.after (.interfaceRemoved interface) bound) := .step first ⟨rfl, detaches⟩
  obtain ⟨attached, _⟩ := vrf_modes_balanced Outside.alone_small rfl rfl first
  obtain ⟨detached, _⟩ := vrf_modes_balanced Outside.alone_small rfl rfl second
  refine ⟨(attached "10.0.0.1" "router" (by decide)).trans ?_, (detached "10.0.0.1" "router" (by decide)).trans ?_⟩
  · decide +kernel
  · decide +kernel

end Synchronizer
end OverlayFabric
