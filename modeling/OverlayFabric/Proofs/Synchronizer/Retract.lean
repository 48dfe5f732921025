import OverlayFabric.Proofs.Synchronizer.Reachable

namespace OverlayFabric

namespace Bindings

variable {bindings : Bindings} {switch subnet router : String} {l3 : Int} {row : BindingRow}

theorem mem_route_of_other (member : row ∈ bindings.rows) (other : row.isFor switch subnet = false) :
    row ∈ (bindings.route switch subnet router l3).rows :=
  List.mem_map.mpr ⟨row, member, by rw [routeWith, other]; rfl⟩

theorem mem_without_of_other (member : row ∈ bindings.rows) (other : row.isFor switch subnet = false) :
    row ∈ (bindings.without switch subnet).rows :=
  List.mem_filter.mpr ⟨member, by rw [other]; rfl⟩

theorem eq_of_isFor {found : BindingRow} (present : bindings.row? switch subnet = some found)
    (member : row ∈ bindings.rows) (here : row.isFor switch subnet = true) : row = found := by
  obtain ⟨rfl, rfl⟩ := BindingRow.isFor_iff.mp here
  exact Option.some.inj ((mem_rows_iff.mp member).symm.trans present)

end Bindings

namespace Synchronizer

/-- What becomes of the row of a router while a handler with a goal issues calls. -/
inductive Fate (goal : Option (String × String)) (row : BindingRow) (issued : List Sent) (rows : List BindingRow) :
    Prop where
  | kept (member : row ∈ rows)
  | retracted (request : VrfRequest) (accepted : Bool) (told : ⟨.retractVrf request, accepted⟩ ∈ issued)
      (switch : request.switch = row.switch) (router : request.routerId = row.router)
      (segment : row.l3 = request.routerVni.val) (vlan : row.vlan = request.vlan.val) (inner : request.isExternal = false)
  | overwritten (request : VrfRequest) (told : ⟨.pushVrf request, true⟩ ∈ issued) (switch : request.switch = row.switch)
      (other : request.routerId ≠ row.router) (aimed : goal = some (row.subnet, request.routerId))

theorem Fate.mono {goal : Option (String × String)} {row : BindingRow} {issued more : List Sent}
    {rows : List BindingRow} (fate : Fate goal row issued rows) (within : ∀ sent ∈ issued, sent ∈ more) :
    Fate goal row more rows := by
  cases fate with
  | kept member => exact .kept member
  | retracted request accepted told switch router segment vlan inner =>
      exact .retracted request accepted (within _ told) switch router segment vlan inner
  | overwritten request told switch other aimed => exact .overwritten request (within _ told) switch other aimed

variable {ω : Type} {sync : Synchronizer ω} {goal : Option (String × String)} {site mid after : Site ω}

def Ends (goal : Option (String × String)) (site after : Site ω) : Prop :=
  ∃ issued, after.record = site.record ++ issued ∧
    ∀ row ∈ site.store.bindings.rows, row.router ≠ "" → Fate goal row issued after.store.bindings.rows

theorem ends_of_kept {issued : List Sent} (record : after.record = site.record ++ issued)
    (kept : ∀ row ∈ site.store.bindings.rows, row.router ≠ "" → row ∈ after.store.bindings.rows) :
    Ends goal site after :=
  ⟨issued, record, fun row member routed => .kept (kept row member routed)⟩

theorem ends_of_route {binding : Binding} {router : String} {l3 : Int} {sent : Sent}
    (present : site.store.bindings.row? binding.switch binding.subnet = some binding.row)
    (record : after.record = site.record ++ [sent])
    (routed : after.store.bindings = site.store.bindings.route binding.switch binding.subnet router l3)
    (fate : binding.row.router ≠ "" → Fate goal binding.row [sent] after.store.bindings.rows) : Ends goal site after := by
  refine ⟨[sent], record, fun row member named => ?_⟩
  cases here : row.isFor binding.switch binding.subnet with
  | true =>
      obtain rfl := Bindings.eq_of_isFor present member here
      exact fate named
  | false => exact .kept (routed ▸ Bindings.mem_route_of_other member here)

theorem Ends.trans (first : Ends goal site mid) (second : Ends goal mid after) : Ends goal site after := by
  obtain ⟨issued, record, early⟩ := first
  obtain ⟨more, recorded, late⟩ := second
  refine ⟨issued ++ more, by rw [recorded, record, List.append_assoc], fun row member routed => ?_⟩
  cases early row member routed with
  | kept member => exact (late row member routed).mono fun sent => List.mem_append_right issued
  | retracted request accepted told switch router segment vlan inner =>
      exact .retracted request accepted (List.mem_append_left more told) switch router segment vlan inner
  | overwritten request told switch other aimed =>
      exact .overwritten request (List.mem_append_left more told) switch other aimed

theorem Move.ends (move : Move sync goal site after) : Ends goal site after := by
  cases move with
  | heard | counted => exact ends_of_kept (List.append_nil _).symm fun _ member _ => member
  | drawn => exact ends_of_kept (List.append_nil _).symm fun _ member _ => SegmentPool.bindings_drawn.symm ▸ member
  | refused | attachRefused => exact ends_of_kept rfl fun _ member _ => member
  | bound project vlan vni state known reported absent =>
      exact ends_of_kept rfl fun _ member _ => (Bindings.mem_add_of_absent absent).mpr (Or.inr member)
  | @unbound leaf subnet binding project accepted state known reported present unrouted =>
      refine ends_of_kept rfl fun row member routed => ?_
      cases here : row.isFor leaf.ip subnet.id with
      | true =>
          obtain rfl := Bindings.eq_of_isFor present member here
          exact absurd (by rw [Binding.router_row, unrouted]; rfl) routed
      | false => exact Bindings.mem_without_of_other member here
  | @attached binding interface l3 gateway state held present aimed other =>
      refine ends_of_route present rfl rfl fun routed => ?_
      refine .overwritten _ (.head _) rfl (fun same => ?_) aimed
      have same : binding.row.router = interface.routerId := same.symm
      exact other ((Binding.router_row_eq_iff (same ▸ routed)).mp same)
  | detached l3 gateway accepted state present routed segment =>
      refine ends_of_route present rfl rfl fun _ => ?_
      exact .retracted _ accepted (.head _) rfl routed.symm (by simp [Binding.row, segment, interfaceRequest]) rfl rfl

theorem Moves.ends (moves : Moves sync goal site after) : Ends goal site after := by
  induction moves with
  | refl => exact ends_of_kept (List.append_nil _).symm fun _ member _ => member
  | tail _ move ih => exact ih.trans move.ends

/-- A row of a router stays as it is through the events of ports and interfaces, unless its switch is told to
drop just that interface, or is given that of another router that the event names for the subnet. -/
theorem ended_interfaces_retracted {event : Event} (alone : sync.outside.Alone) (reachable : site.store.Reachable)
    (onLeaves : event.isOnLeaves = true) :
    ∃ issued, (sync.after event site).record = site.record ++ issued ∧
      ∀ row ∈ site.store.bindings.rows, row.router ≠ "" →
        Fate (sync.eventGoal event site.outside) row issued (sync.after event site).store.bindings.rows :=
  (moves_after alone reachable.sound.settled onLeaves).ends

theorem ended_interfaces_retracted_with_interface :
    let subnet : Subnet := ⟨"inner", "net", "10.1.0.0/24", none⟩
    let interface : RouterInterface := ⟨"router", "inner", "net", "tenant"⟩
    let port : Port := ⟨"port", "net", "tenant", "compute:x", "host", .active⟩
    let segments : PortSegments := ⟨⟨7, by decide, by decide⟩, ⟨5, by decide, by decide⟩, "blue"⟩
    let sync : Synchronizer Unit := ofConfiguration .paired .paired (.small subnet (some interface))
    let bound := sync.after (.portBound port segments) ⟨.paired, [], ()⟩
    let freed := sync.after (.interfaceRemoved interface) bound
    ∃ issued, freed.record = bound.record ++ issued ∧ ∃ row ∈ bound.store.bindings.rows, row.router = "router" ∧
      ∃ request accepted, ⟨.retractVrf request, accepted⟩ ∈ issued ∧ request.switch = row.switch ∧
        request.routerId = row.router ∧ row.l3 = request.routerVni.val ∧ row.vlan = request.vlan.val := by
  intro subnet interface port segments sync bound freed
  have reachable : bound.store.Reachable :=
    .handled (.portBound port segments) .paired Configuration.check_paired fun _ => rfl
  obtain ⟨issued, record, fates⟩ :=
    @ended_interfaces_retracted Unit sync bound (.interfaceRemoved interface) Outside.alone_small reachable rfl
  have attached : ∃ row ∈ bound.store.bindings.rows, row.router = "router" ∧
      row ∉ (sync.after (.interfaceRemoved interface) bound).store.bindings.rows := by decide +kernel
  have aimless : sync.eventGoal (.interfaceRemoved interface) bound.outside = none := rfl
  obtain ⟨row, member, router, gone⟩ := attached
  refine ⟨issued, record, row, member, router, ?_⟩
  cases fates row member (by rw [router]; decide) with
  | kept stays => exact absurd stays gone
  | retracted request accepted told switch named segment vlan =>
      exact ⟨request, accepted, told, switch, named, segment, vlan⟩
  | overwritten _ _ _ _ aimed => exact absurd (aimed.symm.trans aimless) (Option.some_ne_none _)

/-- Both leaves go over from one router to another, and neither is told to drop the interface of the first. -/
theorem overwritten_interfaces_not_retracted :
    let subnet : Subnet := ⟨"inner", "net", "10.1.0.0/24", none⟩
    let port : Port := ⟨"port", "net", "tenant", "compute:x", "host", .active⟩
    let segments : PortSegments := ⟨⟨7, by decide, by decide⟩, ⟨5, by decide, by decide⟩, "blue"⟩
    let sync : Synchronizer Unit := ofConfiguration .paired .paired
      (.small subnet (some ⟨"other", "inner", "net", "tenant"⟩))
    let bound := sync.after (.portBound port segments) ⟨.paired, [], ()⟩
    let taken := sync.after (.interfaceAdded ⟨"router", "inner", "net", "tenant"⟩) bound
    let attachments (store : Store) := store.bindings.rows.map fun row => (row.switch, row.router, row.l3)
    Configuration.paired.check = .ok .paired ∧ bound.store.Reachable ∧
      attachments bound.store = [("10.0.0.1", "other", 101), ("10.0.0.2", "other", 101)] ∧
      attachments taken.store = [("10.0.0.1", "router", 100), ("10.0.0.2", "router", 100)] ∧
      (taken.calls.drop bound.calls.length).map (fun call => (call.name, call.switch)) =
        [("push_vrf", "10.0.0.1"), ("push_vrf", "10.0.0.2")] := by
  intro subnet port segments sync bound taken attachments
  have reachable : bound.store.Reachable :=
    .handled (.portBound port segments) .paired Configuration.check_paired fun _ => rfl
  exact ⟨Configuration.check_paired, reachable, by decide +kernel⟩

end Synchronizer
end OverlayFabric
