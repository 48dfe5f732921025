import OverlayFabric.Synchronizer.Port

namespace OverlayFabric.Synchronizer

variable {ω : Type}

def rollbackAttach (sync : Synchronizer ω) (subnet : String) : List VrfRequest → Task ω Unit
  | [] => return
  | request :: earlier => do
      let mode := if request.mode = .create then .delete else .detach
      Task.ignore (.send sync.outside (.retractVrf (request.withMode mode)))
      let _ ← Task.store sync.outside fun lock => .onBindings (·.detach lock request.switch subnet)
      sync.rollbackAttach subnet earlier

/-- Attaches the bindings in turn; `attached` holds the requests of those done, the last first. -/
def attachEach (sync : Synchronizer ω) (interface : RouterInterface) (l3 : SegmentId)
    (gateway : Option GatewayCidr) (attached : List VrfRequest) : List Binding → Task ω Unit
  | [] => return
  | binding :: rest =>
      if binding.isAttachedTo interface.routerId then
        sync.attachEach interface l3 gateway attached rest
      else do
        let vrfExists ← sync.routedElsewhere binding.switch interface.routerId binding.subnet
        let request := interfaceRequest binding interface l3 gateway (.forPush vrfExists)
        match ← Task.attempt (.send sync.outside (.pushVrf request)) with
        | .error e =>
            sync.rollbackAttach interface.subnetId attached
            throw e
        | .ok () =>
            let _ ← Task.store sync.outside fun lock =>
              .onBindings (·.attach lock binding.switch binding.subnet interface.routerId l3)
            sync.attachEach interface l3 gateway (request :: attached) rest

def addInterface (sync : Synchronizer ω) (interface : RouterInterface) : Task ω Unit := do
  let bindings ← .store sync.outside fun _ => .read (·.bindings.onSubnet interface.subnetId)
  if bindings.isEmpty then return
  let l3 ← .store sync.outside fun lock => sync.allocators.l3.allocate lock interface.routerId
  let subnet ← .ask sync.outside (.subnet interface.subnetId)
  sync.attachEach interface l3 (subnet.bind (·.gatewayCidr)) [] bindings

def detachBinding (sync : Synchronizer ω) (interface : RouterInterface)
    (gateway : Option GatewayCidr) (binding : Binding) : Task ω Unit := do
  if !binding.isAttachedTo interface.routerId then return
  match binding.l3 with
  | none => return
  | some l3 =>
      let elsewhere ← sync.routedElsewhere binding.switch interface.routerId binding.subnet
      Task.ignore (.send sync.outside (.retractVrf
        (interfaceRequest binding interface l3 gateway (.forRetract !elsewhere))))
      let _ ← Task.store sync.outside fun lock =>
        .onBindings (·.detach lock binding.switch binding.subnet)

/-- Every switch gets its turn; the gateway is left out when the subnet cannot be had. -/
def removeInterface (sync : Synchronizer ω) (interface : RouterInterface) : Task ω Unit := do
  let gateway ← match ← Task.attempt (.ask sync.outside (.subnet interface.subnetId)) with
    | .ok subnet => pure (subnet.bind (·.gatewayCidr))
    | .error _ => pure none
  let bindings ← .store sync.outside fun _ => .read (·.bindings.onSubnet interface.subnetId)
  Task.forAll (sync.detachBinding interface gateway) bindings

end OverlayFabric.Synchronizer
