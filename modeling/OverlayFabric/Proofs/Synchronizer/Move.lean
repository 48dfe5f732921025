import Mathlib.Logic.Relation
import OverlayFabric.Proofs.Binding.Settled
import OverlayFabric.Proofs.Synchronizer.Outcome
import OverlayFabric.Synchronizer.Interface

/-!
What the handlers for ports and interfaces do, in small moves: a call to the fabric goes together with
the change of the binding table that belongs to it. Between two moves the table is settled.
-/

namespace OverlayFabric

/-- The cloud may at some time give the subnet as one of the network. -/
def Outside.Reports {ω : Type} (outside : Outside ω) (network : String) (subnet : Subnet) : Prop :=
  ∃ state subnets, (outside.ask (.subnetsOf network) state).1 = .ok subnets ∧ subnet ∈ subnets

def leafBinding (leaf : LeafSwitch) (subnet : Subnet) (vlan : VlanId) (vni : SegmentId) (configured : Bool)
    (number : Nat) : Binding where
  number := number
  switch := leaf.ip
  subnet := subnet.id
  vlan := vlan
  l2 := vni
  configured := configured
  router := none
  l3 := none

namespace Bindings

variable {bindings : Bindings} {leaf : LeafSwitch} {subnet : Subnet} {vlan : VlanId} {vni : SegmentId}
  {configured : Bool}

theorem row?_addLeaf (absent : bindings.row? leaf.ip subnet.id = none) (switch name : String) :
    (bindings.add (leafBinding leaf subnet vlan vni configured 0).row).row? switch name =
      if switch = leaf.ip ∧ name = subnet.id then
        some (leafBinding leaf subnet vlan vni configured bindings.next).row
      else bindings.row? switch name :=
  @row?_add_of_absent bindings (leafBinding leaf subnet vlan vni configured 0).row absent switch name

theorem Settled.addLeaf (settled : bindings.Settled) :
    (bindings.add (leafBinding leaf subnet vlan vni true 0).row).Settled := by
  refine settled.add ⟨leafBinding leaf subnet vlan vni true bindings.next, ?_, rfl⟩
  exact ⟨by simp [leafBinding], rfl, by simp [leafBinding]⟩

end Bindings

namespace Synchronizer

variable {ω : Type}

/-- The moves while the handler at work may attach a subnet to a router, if it has such a goal. -/
inductive Move (sync : Synchronizer ω) (goal : Option (String × String)) (site : Site ω) : Site ω → Prop where
  | heard (state : ω) : Move sync goal site (site.heard state)
  | counted : Move sync goal site (site.withBindings site.store.bindings.skip)
  | drawn (owner : String) (aimed : ∃ subnet, goal = some (subnet, owner)) :
      Move sync goal site (site.withStore (sync.allocators.l3.drawn owner site.store))
  | refused {leaf : LeafSwitch} {subnet : Subnet} (project : String) (vlan : VlanId) (vni : SegmentId)
      (state : ω) (known : leaf ∈ sync.topology.leaves)
      (reported : ∃ network, sync.outside.Reports network subnet)
      (absent : site.store.bindings.row? leaf.ip subnet.id = none) :
      Move sync goal site (site.took (.pushL2 (leafRequest leaf project subnet vlan vni)) false state)
  | bound {leaf : LeafSwitch} {subnet : Subnet} (project : String) (vlan : VlanId) (vni : SegmentId)
      (state : ω) (known : leaf ∈ sync.topology.leaves)
      (reported : ∃ network, sync.outside.Reports network subnet)
      (absent : site.store.bindings.row? leaf.ip subnet.id = none) :
      Move sync goal site ((site.took (.pushL2 (leafRequest leaf project subnet vlan vni)) true state).withBindings
        (site.store.bindings.add (leafBinding leaf subnet vlan vni true 0).row))
  | unbound {leaf : LeafSwitch} {subnet : Subnet} {binding : Binding} (project : String) (accepted : Bool)
      (state : ω) (known : leaf ∈ sync.topology.leaves)
      (reported : ∃ network, sync.outside.Reports network subnet)
      (present : site.store.bindings.row? leaf.ip subnet.id = some binding.row)
      (unrouted : binding.router = none) :
      Move sync goal site
        ((site.took (.retractL2 (leafRequest leaf project subnet binding.vlan binding.l2)) accepted
          state).withBindings (site.store.bindings.without leaf.ip subnet.id))
  | attachRefused {binding : Binding} {interface : RouterInterface} (l3 : SegmentId)
      (gateway : Option GatewayCidr) (state : ω)
      (present : site.store.bindings.row? binding.switch binding.subnet = some binding.row)
      (aimed : goal = some (binding.subnet, interface.routerId))
      (other : binding.router ≠ some interface.routerId) :
      Move sync goal site (site.took (.pushVrf (interfaceRequest binding interface l3 gateway
        (.forPush (site.store.bindings.routesElsewhere binding.switch interface.routerId binding.subnet))))
        false state)
  | attached {binding : Binding} {interface : RouterInterface} {l3 : SegmentId}
      (gateway : Option GatewayCidr) (state : ω)
      (held : sync.allocators.l3.Holds site.store l3 interface.routerId)
      (present : site.store.bindings.row? binding.switch binding.subnet = some binding.row)
      (aimed : goal = some (binding.subnet, interface.routerId))
      (other : binding.router ≠ some interface.routerId) :
      Move sync goal site ((site.took (.pushVrf (interfaceRequest binding interface l3 gateway
        (.forPush (site.store.bindings.routesElsewhere binding.switch interface.routerId binding.subnet))))
        true state).withBindings
          (site.store.bindings.route binding.switch binding.subnet interface.routerId l3.val))
  | detached {binding : Binding} {interface : RouterInterface} (l3 : SegmentId)
      (gateway : Option GatewayCidr) (accepted : Bool) (state : ω)
      (present : site.store.bindings.row? binding.switch binding.subnet = some binding.row)
      (routed : binding.row.router = interface.routerId) (segment : binding.l3 = some l3)
      (named : interface.routerId ≠ "" ∨ ∃ subnet, goal = some (subnet, interface.routerId)) :
      Move sync goal site ((site.took (.retractVrf (interfaceRequest binding interface l3 gateway
        (.forRetract !site.store.bindings.routesElsewhere binding.switch interface.routerId binding.subnet)))
        accepted state).withBindings (site.store.bindings.route binding.switch binding.subnet "" 0))

def Moves (sync : Synchronizer ω) (goal : Option (String × String)) : Site ω → Site ω → Prop :=
  Relation.ReflTransGen (Move sync goal)

variable {sync : Synchronizer ω} {goal : Option (String × String)} {site after : Site ω}

theorem Move.settled (settled : site.store.bindings.Settled) (move : Move sync goal site after) :
    after.store.bindings.Settled := by
  cases move with
  | heard => exact settled
  | counted => exact settled
  | drawn => exact SegmentPool.bindings_drawn.symm ▸ settled
  | refused => exact settled
  | bound => exact settled.addLeaf
  | unbound => exact settled.without
  | attachRefused => exact settled
  | attached => exact settled.route _
  | detached => exact settled.unroute

theorem Moves.settled (settled : site.store.bindings.Settled) (moves : Moves sync goal site after) :
    after.store.bindings.Settled := by
  induction moves with
  | refl => exact settled
  | tail _ move ih => exact move.settled ih

theorem Move.keeps_record (move : Move sync goal site after) : site.record <+: after.record := by
  cases move with
  | heard | counted | drawn => exact List.prefix_rfl
  | refused | bound | unbound | attachRefused | attached | detached => exact List.prefix_append _ _

theorem Moves.keeps_record (moves : Moves sync goal site after) : site.record <+: after.record := by
  induction moves with
  | refl => exact List.prefix_rfl
  | tail _ move ih => exact ih.trans move.keeps_record

def Walks {α : Type} (sync : Synchronizer ω) (goal : Option (String × String)) (task : Task ω α) (site : Site ω) :
    Prop :=
  Task.Leads task site fun _ after => Moves sync goal site after

section Rules

variable {α β : Type} {task : Task ω α} {next : α → Task ω β} {met : Except SyncError α → Site ω → Prop}
  {mid : Site ω}

theorem Walks.onward (walks : Walks sync goal task mid) (moves : Moves sync goal site mid) :
    Task.Leads task mid fun _ after => Moves sync goal site after := by
  refine walks.mono ?_
  intro _ after later
  exact moves.trans later

theorem walks_pure {value : α} : Walks sync goal (pure value) site := Relation.ReflTransGen.refl

theorem walks_bind (first : Task.Leads task site fun result mid => Moves sync goal site mid ∧ met result mid)
    (succeeded : ∀ value mid, Moves sync goal site mid → met (.ok value) mid → Walks sync goal (next value) mid) :
    Walks sync goal (task >>= next) site := by
  refine first.bind ?_ fun _ _ => And.left
  intro value mid ⟨moves, met⟩
  exact (succeeded value mid moves met).onward moves

theorem Walks.ask {query : Query α}
    (answered : ∀ answer state, sync.outside.ask query site.outside = (.ok answer, state) →
      Walks sync goal (next answer) (site.heard state)) :
    Walks sync goal (Task.ask sync.outside query >>= next) site := by
  have first : Task.Leads (Task.ask sync.outside query) site fun result mid =>
      Moves sync goal site mid ∧ ∀ answer, result = .ok answer →
        ∃ state, mid = site.heard state ∧ sync.outside.ask query site.outside = (.ok answer, state) := by
    refine Task.Leads.ask (fun answer state said => ⟨.single (.heard state), ?_⟩)
      fun error state _ => ⟨.single (.heard state), fun _ absurd => by cases absurd⟩
    rintro _ ⟨⟩
    exact ⟨state, rfl, said⟩
  refine walks_bind first fun answer mid _ given => ?_
  obtain ⟨state, rfl, said⟩ := given answer rfl
  exact answered answer state said

theorem Walks.attempt_ask {query : Query α} {next : Except SyncError α → Task ω β}
    (onward : ∀ result state, Walks sync goal (next result) (site.heard state)) :
    Walks sync goal (Task.attempt (Task.ask sync.outside query) >>= next) site := by
  have after (result : Except SyncError α) (state : ω) :
      Task.Leads (next result) (site.heard state) fun _ after => Moves sync goal site after :=
    (onward result state).onward (.single (.heard state))
  refine Task.leads_bind.mpr (Task.leads_attempt.mpr ?_)
  exact Task.Leads.ask (fun _ state _ => after _ state) fun _ state _ => after _ state

end Rules

variable {switch router subnet : String}

theorem run_routedElsewhere (settled : site.store.bindings.Settled) :
    (sync.routedElsewhere switch router subnet).run site =
      (.ok (site.store.bindings.routesElsewhere switch router subnet), site) := by
  obtain ⟨found, read, others⟩ := @Bindings.Settled.ofRouter _ switch subnet router settled
  rw [← others]
  unfold routedElsewhere
  rw [Task.run_bind, Task.run_read read]
  rfl

theorem leads_draw (alone : sync.outside.Alone) {segments : SegmentPool} {owner : String} :
    Task.Leads (.store sync.outside fun lock => segments.allocate lock owner) site fun result mid =>
      mid = site.withStore (segments.drawn owner site.store) ∧
        ∀ id, result = .ok id → segments.Holds mid.store id owner := by
  refine (Task.leads_store alone).mpr ⟨?_, fun id drew => ?_⟩
  · rw [SegmentPool.store_allocate]
    rfl
  · rcases outcome : (segments.allocate .free owner).run site.store with ⟨e | found, after⟩
    · rw [outcome] at drew
      cases drew
    · rw [outcome] at drew
      cases drew
      exact SegmentPool.holds_of_allocate outcome

theorem run_removeBinding (alone : sync.outside.Alone) :
    (sync.removeBinding switch subnet).run site =
      (.ok (), site.withBindings (site.store.bindings.without switch subnet)) := by
  unfold removeBinding
  rw [Task.run_bind, Task.run_onBindings alone rfl]
  rfl

end Synchronizer
end OverlayFabric
