import OverlayFabric.Synchronizer.Task

namespace OverlayFabric.Synchronizer

variable {ω : Type}

def routedElsewhere (sync : Synchronizer ω) (switch router subnet : String) : Task ω Bool := do
  let bindings ← .store sync.outside fun _ => .read (·.bindings.ofRouter switch router)
  return bindings.any (·.subnet != subnet)

def interfaceRequest (binding : Binding) (interface : RouterInterface) (l3 : SegmentId)
    (gateway : Option GatewayCidr) (mode : VrfMode) : VrfRequest where
  switch := binding.switch
  mode := mode
  projectId := interface.projectId
  networkId := interface.networkId
  routerId := interface.routerId
  routerVni := l3
  l2Vni := some binding.l2
  vlan := binding.vlan
  gateway := gateway
  isExternal := false

def leafRequest (leaf : LeafSwitch) (projectId : String) (subnet : Subnet) (vlan : VlanId)
    (vni : SegmentId) : L2Request where
  switch := leaf.ip
  projectId := projectId
  networkId := subnet.networkId
  routerId := none
  vni := vni
  vlan := vlan
  interfaces := leaf.interfaces
  gateway := subnet.gatewayCidr

def vanished (switch subnet : String) : SyncError :=
  .store (.corrupt "port_bindings" s!"binding {switch} / {subnet} vanished after upsert")

def removeBinding (sync : Synchronizer ω) (switch subnet : String) : Task ω Unit := do
  let _ ← Task.store sync.outside fun lock => .onBindings (·.remove lock switch subnet)

def subnetOf (sync : Synchronizer ω) (port : Port) : Task ω (Option Subnet) := do
  let subnets ← Task.ask sync.outside (.subnetsOf port.networkId)
  return subnets.head?

def leavesFor (sync : Synchronizer ω) (port : Port) (segments : PortSegments) : List LeafSwitch :=
  (sync.topology.leavesOf port.hostId).filter (·.serves segments.physicalNetwork)

def attachInterface (sync : Synchronizer ω) (binding : Binding) (interface : RouterInterface)
    (subnet : Subnet) : Task ω Unit := do
  let l3 ← .store sync.outside fun lock => sync.allocators.l3.allocate lock interface.routerId
  let vrfExists ← sync.routedElsewhere binding.switch interface.routerId binding.subnet
  .send sync.outside (.pushVrf
    (interfaceRequest binding interface l3 subnet.gatewayCidr (.forPush vrfExists)))
  let _ ← Task.store sync.outside fun lock =>
    .onBindings (·.attach lock binding.switch binding.subnet interface.routerId l3)

def configureL2 (sync : Synchronizer ω) (leaf : LeafSwitch) (port : Port) (subnet : Subnet)
    (binding : Binding) (created : Bool) : Task ω (Option L2Request) := do
  if binding.configured then return none
  let request := leafRequest leaf port.projectId subnet binding.vlan binding.l2
  match ← Task.attempt (.send sync.outside (.pushL2 request)) with
  | .error e =>
      if created then sync.removeBinding leaf.ip subnet.id
      throw e
  | .ok () =>
      let _ ← Task.store sync.outside fun lock => .onBindings (·.mark lock leaf.ip subnet.id)
      return some request

def attachLeaf (sync : Synchronizer ω) (subnet : Subnet) (binding : Binding)
    (pushed : Option L2Request) : Option RouterInterface → Task ω Unit
  | none => return
  | some interface => do
      if binding.isAttachedTo interface.routerId then return
      match ← Task.attempt (sync.attachInterface binding interface subnet) with
      | .ok () => return
      | .error e =>
          match pushed with
          | none => throw e
          | some request =>
              Task.ignore (.send sync.outside (.retractL2 request))
              sync.removeBinding binding.switch binding.subnet
              throw e

def configureLeaf (sync : Synchronizer ω) (port : Port) (segments : PortSegments) (subnet : Subnet)
    (interface : Option RouterInterface) (leaf : LeafSwitch) : Task ω Unit := do
  let created ← .store sync.outside fun lock =>
    .onBindings (·.upsert lock leaf.ip subnet.id segments.vlan segments.overlay)
  let some binding ← Task.store sync.outside fun _ => .read (·.bindings.get leaf.ip subnet.id)
    | throw (vanished leaf.ip subnet.id)
  let pushed ← sync.configureL2 leaf port subnet binding created
  sync.attachLeaf subnet binding (if created then pushed else none) interface

def configureLeaves (sync : Synchronizer ω) (port : Port) (segments : PortSegments)
    (subnet : Subnet) (interface : Option RouterInterface) : List LeafSwitch → Task ω Unit
  | [] => return
  | leaf :: rest => do
      sync.configureLeaf port segments subnet interface leaf
      sync.configureLeaves port segments subnet interface rest

def configure (sync : Synchronizer ω) (port : Port) (segments : PortSegments) : Task ω Unit := do
  if port.hostId = "" then return
  let some subnet ← sync.subnetOf port | return
  let leaves := sync.leavesFor port segments
  if leaves.isEmpty then return
  let interface ← .ask sync.outside (.interfaceOn subnet.id)
  sync.configureLeaves port segments subnet interface leaves

def isStillUsed (sync : Synchronizer ω) (leaf : LeafSwitch) (port : Port) (subnet : String) :
    Task ω Bool := do
  let ports ← .ask sync.outside (.ports leaf.hosts subnet)
  return ports.any fun other => other.id != port.id && !other.ownerClass.isDhcp

def retractInterface (sync : Synchronizer ω) (port : Port) (subnet : Subnet) (binding : Binding)
    (leaf : LeafSwitch) : Task ω Unit := do
  match binding.router, binding.l3 with
  | some router, some l3 =>
      let elsewhere ← sync.routedElsewhere leaf.ip router subnet.id
      Task.ignore (.send sync.outside (.retractVrf {
        switch := leaf.ip, mode := .forRetract !elsewhere, projectId := port.projectId,
        networkId := subnet.networkId, routerId := router, routerVni := l3,
        l2Vni := some binding.l2, vlan := binding.vlan, gateway := subnet.gatewayCidr,
        isExternal := false }))
  | _, _ => return

def unconfigureLeaf (sync : Synchronizer ω) (port : Port) (subnet : Subnet) (leaf : LeafSwitch) :
    Task ω Unit := do
  if ← sync.isStillUsed leaf port subnet.id then return
  let some binding ← Task.store sync.outside fun _ => .read (·.bindings.get leaf.ip subnet.id)
    | return
  sync.retractInterface port subnet binding leaf
  if binding.configured then
    Task.ignore (.send sync.outside (.retractL2
      (leafRequest leaf port.projectId subnet binding.vlan binding.l2)))
  sync.removeBinding leaf.ip subnet.id

/-- Every leaf gets its turn; the first failure is reported at the end. -/
def unconfigure (sync : Synchronizer ω) (port : Port) (segments : PortSegments) : Task ω Unit := do
  if port.hostId = "" then return
  let some subnet ← sync.subnetOf port | return
  Task.forAll (sync.unconfigureLeaf port subnet) (sync.leavesFor port segments)

def portBound (sync : Synchronizer ω) (port : Port) (segments : PortSegments) : Task ω Unit :=
  sync.configure port segments

def portUnbound (sync : Synchronizer ω) (port : Port) (segments : PortSegments) : Task ω Unit :=
  sync.unconfigure port segments

/-- A port that is down or lost its binding on the way to another host is taken off the leaves it was
on; any other port with a supported owner is configured. -/
def updatePort (sync : Synchronizer ω) (event : PortEvent) : Task ω Unit :=
  if event.isMigrating || event.port.status.isDown then
    match event.previousSegments <|> event.segments with
    | some segments => sync.unconfigure (event.previous.getD event.port) segments
    | none => return
  else if event.port.ownerClass.isSupported then
    match event.segments with
    | some segments => sync.configure event.port segments
    | none => return
  else return

def deletePort (sync : Synchronizer ω) (event : PortEvent) : Task ω Unit :=
  if event.port.ownerClass.isSupported then
    match event.segments with
    | some segments => sync.unconfigure event.port segments
    | none => return
  else return

def validateSubnet (sync : Synchronizer ω) (subnet : Subnet) : Task ω Unit := do
  let present ← .ask sync.outside (.subnetsOf subnet.networkId)
  if present.any (·.id != subnet.id) then throw (.subnetLimit subnet.networkId)

def bindPort (sync : Synchronizer ω) (port : Port) (segments : List NetworkSegment) :
    Task ω (Option DynamicSegment) := do
  if segments.any (·.kind == .tenantOverlay) then
    match sync.topology.physnetOf port.hostId with
    | none => throw (.physnetNotConfigured port.hostId
        ((sync.topology.leavesOf port.hostId).map (·.ip)))
    | some physnet =>
        match ← Task.ask sync.outside (.dynamicSegment port.networkId physnet) with
        | some segment => return some segment
        | none => throw (.noDynamicSegment port.networkId physnet)
  else return none

end OverlayFabric.Synchronizer
