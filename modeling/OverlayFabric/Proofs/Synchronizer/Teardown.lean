import OverlayFabric.Proofs.Synchronizer.Agree
import OverlayFabric.Proofs.Synchronizer.Reachable

namespace OverlayFabric

/-- The events that only take down: a port that goes, is down or migrates, an interface, a gateway or a router
that goes. -/
def Event.tearsDown : Event → Bool
  | .portDeleted _ => true
  | .portUnbound _ _ => true
  | .portUpdated event => event.isMigrating || event.port.status.isDown
  | .interfaceRemoved _ => true
  | .gatewayRemoved _ _ => true
  | .routerDeleted _ => true
  | .routerUpdated previous updated => previous.externalGateway.isSome && updated.externalGateway.isNone
  | _ => false

namespace Synchronizer
open OverlayFabric.Task (Agrees agrees_pure agrees_throw agrees_ask agrees_store agrees_ignore_send)

variable {ω ω' : Type} {sync : Synchronizer ω} {second : Outside ω'} {same : ω → ω' → Prop}

def facing (sync : Synchronizer ω) (second : Outside ω') : Synchronizer ω' where
  outside := second
  topology := sync.topology
  allocators := sync.allocators
  allowedPhysnets := sync.allowedPhysnets

section Alike

variable (alike : sync.outside.Alike second same)

include alike

theorem agrees_subnetOf {port : Port} : Agrees same (sync.subnetOf port) ((sync.facing second).subnetOf port) :=
  (agrees_ask alike _).bind fun _ => agrees_pure

theorem agrees_removeBinding {switch subnet : String} :
    Agrees same (sync.removeBinding switch subnet) ((sync.facing second).removeBinding switch subnet) :=
  (agrees_store alike _).bind fun _ => agrees_pure

theorem agrees_routedElsewhere {switch router subnet : String} :
    Agrees same (sync.routedElsewhere switch router subnet)
      ((sync.facing second).routedElsewhere switch router subnet) :=
  (agrees_store alike _).bind fun _ => agrees_pure

theorem agrees_retractInterface {port : Port} {subnet : Subnet} {binding : Binding} {leaf : LeafSwitch} :
    Agrees same (sync.retractInterface port subnet binding leaf)
      ((sync.facing second).retractInterface port subnet binding leaf) := by
  unfold retractInterface
  split
  · exact (agrees_routedElsewhere alike).bind fun _ => agrees_ignore_send alike _
  · exact agrees_pure

theorem agrees_unconfigureLeaf {port : Port} {subnet : Subnet} {leaf : LeafSwitch} :
    Agrees same (sync.unconfigureLeaf port subnet leaf) ((sync.facing second).unconfigureLeaf port subnet leaf) := by
  unfold unconfigureLeaf
  refine Agrees.bind ((agrees_ask alike _).bind fun _ => agrees_pure) fun used => ?_
  cases used with
  | true => exact agrees_pure
  | false =>
      refine (agrees_store alike _).bind fun binding => ?_
      cases binding with
      | none => exact agrees_pure
      | some binding =>
          refine (agrees_retractInterface alike).bind fun _ => ?_
          cases binding.configured with
          | true => exact (agrees_ignore_send alike _).bind fun _ => agrees_removeBinding alike
          | false => exact agrees_pure.bind fun _ => agrees_removeBinding alike

theorem agrees_unconfigure {port : Port} {segments : PortSegments} :
    Agrees same (sync.unconfigure port segments) ((sync.facing second).unconfigure port segments) := by
  unfold unconfigure
  split
  · exact agrees_pure
  · refine (agrees_subnetOf alike).bind fun subnet => ?_
    cases subnet with
    | none => exact agrees_pure
    | some subnet => exact Agrees.forAll fun _ => agrees_unconfigureLeaf alike

theorem agrees_detachBinding {interface : RouterInterface} {gateway : Option GatewayCidr} {binding : Binding} :
    Agrees same (sync.detachBinding interface gateway binding)
      ((sync.facing second).detachBinding interface gateway binding) := by
  unfold detachBinding
  split
  · exact agrees_pure
  · split
    · exact agrees_pure
    · refine (agrees_routedElsewhere alike).bind fun _ => (agrees_ignore_send alike _).bind fun _ => ?_
      exact (agrees_store alike _).bind fun _ => agrees_pure

theorem agrees_removeInterface {interface : RouterInterface} :
    Agrees same (sync.removeInterface interface) ((sync.facing second).removeInterface interface) := by
  unfold removeInterface
  refine (agrees_ask alike _).attempt.bind fun subnet => ?_
  cases subnet <;> refine agrees_pure.bind fun gateway => (agrees_store alike _).bind fun _ => ?_
  all_goals exact Agrees.forAll fun _ => agrees_detachBinding alike

theorem agrees_planGateway {gateway : ExternalGateway} :
    Agrees same (sync.planGateway gateway) ((sync.facing second).planGateway gateway) := by
  unfold planGateway
  refine (agrees_ask alike _).bind fun segment => ?_
  cases segment with
  | none => exact agrees_pure
  | some segment =>
      dsimp only
      split
      · exact agrees_pure
      · split
        · exact agrees_pure
        · refine (agrees_ask alike _).bind fun subnet => ?_
          cases subnet with
          | none => exact agrees_throw
          | some subnet =>
              dsimp only
              split <;> exact agrees_pure

theorem agrees_removeLeg {router : Router} {gateway : ExternalGateway} {plan : Option GatewayPlan}
    {l2 l3 : Option SegmentId} {leaf : String × VlanId} :
    Agrees same (sync.removeLeg router gateway plan l2 l3 leaf)
      ((sync.facing second).removeLeg router gateway plan l2 l3 leaf) := by
  unfold removeLeg
  dsimp only
  split
  · refine Agrees.bind ?_ fun _ => (agrees_store alike _).bind fun _ => agrees_pure
    exact (agrees_ignore_send alike _).bind fun _ => agrees_ignore_send alike _
  · exact (agrees_store alike _).bind fun _ => agrees_pure

theorem agrees_teardownGateway {router : Router} {gateway : ExternalGateway} {plan : Option GatewayPlan} :
    Agrees same (sync.teardownGateway router gateway plan) ((sync.facing second).teardownGateway router gateway plan) := by
  unfold teardownGateway
  refine (agrees_store alike _).bind fun l2 => (agrees_store alike _).bind fun l3 =>
    (agrees_store alike _).bind fun held => ?_
  refine (Agrees.forAll fun _ => agrees_removeLeg alike).attempt.bind fun legs =>
    (agrees_store alike _).bind fun _ => ?_
  cases legs with
  | ok _ => exact agrees_pure
  | error e => exact agrees_throw

theorem agrees_removeGateway {router : Router} {gateway : ExternalGateway} :
    Agrees same (sync.removeGateway router gateway) ((sync.facing second).removeGateway router gateway) := by
  unfold removeGateway
  refine (agrees_planGateway alike).attempt.bind fun plan => ?_
  cases plan <;> exact agrees_teardownGateway alike

theorem agrees_deleteRouter {router : Router} :
    Agrees same (sync.deleteRouter router) ((sync.facing second).deleteRouter router) := by
  unfold deleteRouter
  dsimp only
  split
  · exact (agrees_removeGateway alike).bind fun _ => (agrees_store alike _).bind fun _ => agrees_pure
  · exact (agrees_store alike _).bind fun _ => agrees_pure

omit alike in
theorem agrees_silently {task : Task ω Unit} {again : Task ω' Unit} (agrees : Agrees same task again) :
    Agrees same (silently task) (silently again) := agrees.map _

theorem agrees_handle {event : Event} (down : event.tearsDown = true) :
    Agrees same (sync.handle event) ((sync.facing second).handle event) := by
  cases event with
  | portDeleted event =>
      refine agrees_silently ?_
      unfold deletePort
      split
      · split
        · exact agrees_unconfigure alike
        · exact agrees_pure
      · exact agrees_pure
  | portUnbound port segments => exact agrees_silently (agrees_unconfigure alike)
  | portUpdated event =>
      refine agrees_silently ?_
      unfold updatePort
      have gone : (event.isMigrating || event.port.status.isDown) = true := down
      rw [if_pos gone, if_pos gone]
      split
      · exact agrees_unconfigure alike
      · exact agrees_pure
  | interfaceRemoved interface => exact agrees_silently (agrees_removeInterface alike)
  | gatewayRemoved router gateway => exact agrees_silently (agrees_removeGateway alike)
  | routerDeleted router => exact agrees_silently (agrees_deleteRouter alike)
  | routerUpdated previous updated =>
      refine agrees_silently ?_
      unfold updateRouter
      obtain ⟨old, some⟩ := Option.isSome_iff_exists.mp (Bool.and_eq_true_iff.mp down).1
      rw [some, Option.isNone_iff_eq_none.mp (Bool.and_eq_true_iff.mp down).2]
      exact agrees_removeGateway alike
  | _ => cases down

end Alike

/-- Whatever is taken down, the result, the tables and the calls are the same before any two fabrics. -/
theorem teardown_unmoved_by_fabric {κ φ φ' : Type} (ask : {α : Type} → Query α → κ → Except CloudError α × κ)
    (send : Call → φ → Except FabricError Unit × φ) (send' : Call → φ' → Except FabricError Unit × φ')
    (configuration : Configuration) (ranges : PoolRanges) {event : Event} (down : event.tearsDown = true)
    (store : Store) (record : List Sent) (cloud : κ) (fabric : φ) (fabric' : φ') :
    let run := ((ofConfiguration configuration ranges (.pair ask send)).handle event).run
      ⟨store, record, (cloud, fabric)⟩
    let other := ((ofConfiguration configuration ranges (.pair ask send')).handle event).run
      ⟨store, record, (cloud, fabric')⟩
    other.1 = run.1 ∧ other.2.store = run.2.store ∧ other.2.calls = run.2.calls := by
  intro run other
  let sync := ofConfiguration configuration ranges (.pair ask send)
  have agrees := @agrees_handle _ _ sync (.pair ask send') _ Outside.alike_pair event down
  obtain ⟨result, after⟩ := agrees ⟨store, record, (cloud, fabric)⟩ ⟨store, record, (cloud, fabric')⟩ ⟨rfl, rfl, rfl⟩
  exact ⟨result, after.store, after.calls⟩

theorem unbound_port_unmoved_by_refusals :
    let cloud : Outside Unit := .small ⟨"inner", "net", "10.1.0.0/24", none⟩ (some ⟨"router", "inner", "net", "tenant"⟩)
    let accept (_ : Call) (state : Unit) : Except FabricError Unit × Unit := (.ok (), state)
    let refuse (_ : Call) (state : Unit) : Except FabricError Unit × Unit := (.error (.invalidRequest "refused"), state)
    let port : Port := ⟨"port", "net", "tenant", "compute:x", "host", .active⟩
    let segments : PortSegments := ⟨⟨5000, by decide, by decide⟩, ⟨200, by decide, by decide⟩, "blue"⟩
    let bound := ((ofConfiguration .paired .paired (.pair cloud.ask accept)).after (.portBound port segments)
      ⟨.paired, [], ((), ())⟩).store
    let run := ((ofConfiguration .paired .paired (.pair cloud.ask accept)).handle (.portUnbound port segments)).run
      ⟨bound, [], ((), ())⟩
    let other := ((ofConfiguration .paired .paired (.pair cloud.ask refuse)).handle (.portUnbound port segments)).run
      ⟨bound, [], ((), ())⟩
    (bound.bindings.rows.length = 2 ∧ other.1.isOk = true ∧ other.2.store.bindings.rows = [] ∧
      other.2.calls.map Call.name = ["retract_vrf", "retract_l2", "retract_vrf", "retract_l2"]) ∧
      other.1 = run.1 ∧ other.2.store = run.2.store ∧ other.2.calls = run.2.calls := by
  intro cloud accept refuse port segments bound
  have down : (Event.portUnbound port segments).tearsDown = true := rfl
  refine ⟨?_, teardown_unmoved_by_fabric cloud.ask accept refuse .paired .paired down bound [] () () ()⟩
  decide +kernel

end Synchronizer
end OverlayFabric
