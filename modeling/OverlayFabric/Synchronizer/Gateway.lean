import OverlayFabric.Synchronizer.Port

namespace OverlayFabric.Synchronizer

variable {ω : Type}

structure GatewayPlan where
  physnet : String
  border : Option GatewayCidr
  route : Option GatewayCidr
  deriving DecidableEq, Repr

structure BorderLeg where
  switch : String
  interfaces : List String
  vlan : VlanId
  deriving DecidableEq, Repr

def borderRequest (router : Router) (gateway : ExternalGateway) (plan : GatewayPlan) (l2 : SegmentId)
    (leg : BorderLeg) : L2Request where
  switch := leg.switch
  projectId := router.projectId
  networkId := gateway.networkId
  routerId := some router.id
  vni := l2
  vlan := leg.vlan
  interfaces := leg.interfaces
  gateway := plan.border

def routeRequest (router : Router) (gateway : ExternalGateway) (plan : GatewayPlan) (l3 : SegmentId)
    (leg : BorderLeg) : VrfRequest where
  switch := leg.switch
  mode := .create
  projectId := router.projectId
  networkId := gateway.networkId
  routerId := router.id
  routerVni := l3
  l2Vni := none
  vlan := leg.vlan
  gateway := plan.route
  isExternal := true

def planGateway (sync : Synchronizer ω) (gateway : ExternalGateway) :
    Task ω (Option GatewayPlan) := do
  let some segment ← Task.ask sync.outside (.segmentOf gateway.networkId) | return none
  if segment.kind != .externalNet then return none
  match segment.physicalNetwork with
  | none => return none
  | some physnet =>
      match ← Task.ask sync.outside (.subnet gateway.subnetId) with
      | none => throw (.cloud (.notFound "subnet" gateway.subnetId))
      | some subnet =>
          if subnet.isV6 || gateway.fixedIp.isV6 then return none
          return some {
            physnet, border := subnet.addressCidr gateway.fixedIp, route := subnet.gatewayCidr }

def retractLeg (sync : Synchronizer ω) (router : Router) (gateway : ExternalGateway)
    (plan : GatewayPlan) (l2 l3 : SegmentId) (leg : BorderLeg) : Task ω Unit := do
  Task.ignore (.send sync.outside (.retractVrf
    ((routeRequest router gateway plan l3 leg).withMode .delete)))
  Task.ignore (.send sync.outside (.retractL2 (borderRequest router gateway plan l2 leg)))

/-- Takes the gateway off one border leaf and gives its VLAN back. Without a plan and both segments
nothing can be retracted. -/
def removeLeg (sync : Synchronizer ω) (router : Router) (gateway : ExternalGateway)
    (plan : Option GatewayPlan) (l2 l3 : Option SegmentId) (leaf : String × VlanId) :
    Task ω Unit := do
  match plan, l2, l3 with
  | some plan, some l2, some l3 =>
      sync.retractLeg router gateway plan l2 l3
        ⟨leaf.1, sync.topology.borderInterfaces leaf.1 plan.physnet, leaf.2⟩
  | _, _, _ => pure ()
  let _ ← Task.store sync.outside fun lock => sync.allocators.border.release lock leaf.1 router.id

/-- Every border leaf gets its turn. The gateway segment is given back in any case. -/
def teardownGateway (sync : Synchronizer ω) (router : Router) (gateway : ExternalGateway)
    (plan : Option GatewayPlan) : Task ω Unit := do
  let l2 ← .store sync.outside fun _ => sync.allocators.l2.find router.id
  let l3 ← .store sync.outside fun _ => sync.allocators.l3.find router.id
  let held ← .store sync.outside fun _ => BorderPool.heldBy router.id
  let legs ← Task.attempt (Task.forAll (sync.removeLeg router gateway plan l2 l3) held)
  let _ ← Task.store sync.outside fun lock => sync.allocators.l2.release lock router.id
  match legs with
  | .ok () => return
  | .error e => throw e

def addLeg (sync : Synchronizer ω) (router : Router) (gateway : ExternalGateway) (plan : GatewayPlan)
    (l2 l3 : SegmentId) (border : String × List String) : Task ω Unit := do
  let vlan ← .store sync.outside fun lock => sync.allocators.border.allocate lock border.1 router.id
  let leg : BorderLeg := ⟨border.1, border.2, vlan⟩
  .send sync.outside (.pushL2 (borderRequest router gateway plan l2 leg))
  .send sync.outside (.pushVrf (routeRequest router gateway plan l3 leg))

def addLegs (sync : Synchronizer ω) (router : Router) (gateway : ExternalGateway) (plan : GatewayPlan)
    (l2 l3 : SegmentId) : List (String × List String) → Task ω Unit
  | [] => return
  | border :: rest => do
      match ← Task.attempt (sync.addLeg router gateway plan l2 l3 border) with
      | .ok () => sync.addLegs router gateway plan l2 l3 rest
      | .error e =>
          sync.teardownGateway router gateway (some plan)
          throw e

def addGateway (sync : Synchronizer ω) (router : Router) (gateway : ExternalGateway) :
    Task ω Unit := do
  let some plan ← sync.planGateway gateway | return
  let borders := sync.topology.bordersOf plan.physnet
  if borders.isEmpty then return
  let l3 ← .store sync.outside fun lock => sync.allocators.l3.allocate lock router.id
  let l2 ← .store sync.outside fun lock => sync.allocators.l2.allocate lock router.id
  sync.addLegs router gateway plan l2 l3 borders

def removeGateway (sync : Synchronizer ω) (router : Router) (gateway : ExternalGateway) :
    Task ω Unit := do
  match ← Task.attempt (sync.planGateway gateway) with
  | .ok plan => sync.teardownGateway router gateway plan
  | .error _ => sync.teardownGateway router gateway none

def createRouter (sync : Synchronizer ω) (router : Router) : Task ω SegmentId := do
  let l3 ← .store sync.outside fun lock => sync.allocators.l3.allocate lock router.id
  match router.externalGateway with
  | none => return l3
  | some gateway =>
      match ← Task.attempt (sync.addGateway router gateway) with
      | .ok () => return l3
      | .error e =>
          Task.ignore (.store sync.outside fun lock => sync.allocators.l3.release lock router.id)
          throw e

/-- Follows a change of the external network; other changes of the gateway are not followed. -/
def updateRouter (sync : Synchronizer ω) (previous updated : Router) : Task ω Unit := do
  match previous.externalGateway, updated.externalGateway with
  | none, some new => sync.addGateway updated new
  | some old, none => sync.removeGateway previous old
  | some old, some new =>
      if old.networkId = new.networkId then return
      sync.removeGateway previous old
      sync.addGateway updated new
  | none, none => return

def deleteRouter (sync : Synchronizer ω) (router : Router) : Task ω Unit := do
  match router.externalGateway with
  | some gateway => sync.removeGateway router gateway
  | none => pure ()
  let _ ← Task.store sync.outside fun lock => sync.allocators.l3.release lock router.id

end OverlayFabric.Synchronizer
