import OverlayFabric.Proofs.Synchronizer.Attach
import OverlayFabric.Proofs.Synchronizer.Vacate
import OverlayFabric.Synchronizer.Event

namespace OverlayFabric

def Outside.small (subnet : Subnet) (interface : Option RouterInterface) : Outside Unit where
  ask query state :=
    match query with
    | .ports _ _ => (.ok [], state)
    | .subnet id => (.ok (if id = subnet.id then some subnet else none), state)
    | .subnetsOf network => (.ok (if network = subnet.networkId then [subnet] else []), state)
    | .segmentOf _ => (.ok none, state)
    | .router _ => (.ok none, state)
    | .routerIds => (.ok [], state)
    | .networkIds => (.ok [subnet.networkId], state)
    | .interfaceOn _ => (.ok interface, state)
    | .dynamicSegment _ _ => (.ok none, state)
  send _ state := (.ok (), state)
  lock _ := .free

def Configuration.small : Configuration where
  leafSwitches :=
    { pairs := [("10.0.0.1", { physnet := some "blue", hostPorts := { pairs := [("host", ["eth1"])] } })] }

def Configuration.bordered : Configuration where
  pools := { l2Ranges := ["5000:5000"], l3Ranges := ["100:100"] }
  leafSwitches :=
    { pairs := [("10.0.0.1", { physnet := some "blue", hostPorts := { pairs := [("host", ["eth1"])] } })] }
  borderSwitches :=
    { pairs := [
        ("10.0.0.8", { vlanRanges := ["200:200"], physnetPorts := { pairs := [("out", ["eth8"])] } }),
        ("10.0.0.9", { vlanRanges := ["200:200"], physnetPorts := { pairs := [("out", ["eth9"])] } })]
      sorted := by decide +kernel }

def Configuration.twin : Configuration :=
  { Configuration.bordered with
    leafSwitches :=
      { pairs := [
          ("10.0.0.1", { physnet := some "blue", hostPorts := { pairs := [("host", ["eth1"])] } }),
          ("10.0.0.2", { physnet := some "blue", hostPorts := { pairs := [("host", ["eth2"])] } })]
        sorted := by decide +kernel } }

theorem Outside.alone_small {subnet : Subnet} {interface : Option RouterInterface} :
    (Outside.small subnet interface).Alone := fun _ => rfl

theorem append_eq_split {record before after : List Sent} {sent last : Sent}
    (split : record ++ [last] = before ++ sent :: after) :
    (before = record ∧ sent = last) ∨ ∃ rest, record = before ++ sent :: rest := by
  rcases List.eq_nil_or_concat after with rfl | ⟨rest, final, rfl⟩
  · obtain ⟨same, rfl⟩ := List.append_inj' split rfl |>.imp_right (List.cons.inj · |>.1)
    exact Or.inl ⟨same.symm, rfl⟩
  · right
    refine ⟨rest, ?_⟩
    have : record ++ [last] = (before ++ sent :: rest) ++ [final] := by simp [split]
    exact (List.append_inj' this rfl).1

def Event.isOnLeaves : Event → Bool
  | .portUpdated _ | .portDeleted _ | .portBound _ _ | .portUnbound _ _ => true
  | .interfaceAdded _ | .interfaceRemoved _ => true
  | _ => false

namespace Synchronizer

variable {ω : Type} {sync : Synchronizer ω} {goal : Option (String × String)} {site start : Site ω}
  {event : Event} {allowed : Event → Site ω → Prop}

def after (sync : Synchronizer ω) (event : Event) (site : Site ω) : Site ω := ((sync.handle event).run site).2

inductive Reaches (sync : Synchronizer ω) (allowed : Event → Site ω → Prop) (start : Site ω) : Site ω → Prop where
  | start : Reaches sync allowed start start
  | step {site : Site ω} {event : Event} (reached : Reaches sync allowed start site) (may : allowed event site) :
      Reaches sync allowed start (sync.after event site)

def eventGoal (sync : Synchronizer ω) (event : Event) (state : ω) : Option (String × String) :=
  match event with
  | .portUpdated event => sync.portGoal event.port state
  | .portBound port _ => sync.portGoal port state
  | .interfaceAdded interface => some (interface.subnetId, interface.routerId)
  | _ => none

theorem leads_silently {task : Task ω Unit} {holds : Site ω → Prop}
    (leads : Task.Leads task site fun _ after => holds after) :
    Task.Leads (silently task) site fun _ after => holds after := by
  unfold silently
  rw [map_eq_pure_bind]
  exact leads.keep fun _ _ done => done

theorem walks_silently {task : Task ω Unit} (walks : Walks sync goal task site) :
    Walks sync goal (silently task) site :=
  leads_silently walks

theorem walks_updatePort (alone : sync.outside.Alone) (settled : site.store.bindings.Settled) {event : PortEvent} :
    Walks sync (sync.portGoal event.port site.outside) (sync.updatePort event) site := by
  unfold updatePort
  split
  · split
    · exact walks_unconfigure alone settled
    · exact walks_pure
  · split
    · split
      · exact walks_configure alone settled
      · exact walks_pure
    · exact walks_pure

theorem walks_deletePort (alone : sync.outside.Alone) (settled : site.store.bindings.Settled) {event : PortEvent} :
    Walks sync goal (sync.deletePort event) site := by
  unfold deletePort
  split
  · split
    · exact walks_unconfigure alone settled
    · exact walks_pure
  · exact walks_pure

theorem moves_after (alone : sync.outside.Alone) (settled : site.store.bindings.Settled)
    (onLeaves : event.isOnLeaves = true) :
    Moves sync (sync.eventGoal event site.outside) site (sync.after event site) := by
  have walks : Walks sync (sync.eventGoal event site.outside) (sync.handle event) site := by
    cases event with
    | portUpdated event => exact walks_silently (walks_updatePort alone settled)
    | portDeleted event => exact walks_silently (walks_deletePort alone settled)
    | portBound port segments => exact walks_silently (walks_configure alone settled)
    | portUnbound port segments => exact walks_silently (walks_unconfigure alone settled)
    | interfaceAdded interface => exact walks_silently (walks_addInterface alone settled)
    | interfaceRemoved interface => exact walks_silently (walks_removeInterface alone settled)
    | _ => cases onLeaves
  exact walks

end Synchronizer
end OverlayFabric
