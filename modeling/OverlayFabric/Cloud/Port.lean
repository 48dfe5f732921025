import OverlayFabric.Segment
import OverlayFabric.Vlan

namespace OverlayFabric

inductive OwnerClass where
  | compute
  | baremetal
  | manila
  | dhcp
  | routerInterface
  | routerGateway
  | routerHaInterface
  | other
  deriving DecidableEq, Repr

namespace OwnerClass

def ofDeviceOwner (owner : String) : OwnerClass :=
  if owner = "network:dhcp" then .dhcp
  else if owner = "network:router_interface" then .routerInterface
  else if owner = "network:router_gateway" then .routerGateway
  else if owner = "network:router_ha_interface" then .routerHaInterface
  else if "compute".toList.isPrefixOf owner.toList then .compute
  else if "baremetal".toList.isPrefixOf owner.toList then .baremetal
  else if "manila".toList.isPrefixOf owner.toList then .manila
  else .other

def isSupported (owner : OwnerClass) : Bool := owner != .other

def isDhcp (owner : OwnerClass) : Bool := owner == .dhcp

end OwnerClass

inductive PortStatus where
  | active
  | build
  | down
  | error
  deriving DecidableEq, Repr

namespace PortStatus

def ofText (text : String) : PortStatus :=
  let upper := String.ofList (text.toList.map Char.toUpper)
  if upper = "ACTIVE" then .active
  else if upper = "DOWN" then .down
  else if upper = "ERROR" then .error
  else .build

def isDown (status : PortStatus) : Bool := status == .down || status == .error

end PortStatus

structure Port where
  id : String
  networkId : String
  projectId : String
  deviceOwner : String
  /-- The host the port is bound to, empty when it is bound to none. -/
  hostId : String
  status : PortStatus
  deriving DecidableEq, Repr

def Port.ownerClass (port : Port) : OwnerClass := .ofDeviceOwner port.deviceOwner

structure PortSegments where
  overlay : SegmentId
  vlan : VlanId
  physicalNetwork : String
  deriving DecidableEq, Repr

structure PortEvent where
  port : Port
  segments : Option PortSegments
  previous : Option Port
  previousSegments : Option PortSegments
  deriving DecidableEq, Repr

/-- The port lost its binding while it moved to another host. -/
def PortEvent.isMigrating (event : PortEvent) : Bool :=
  match event.previous, event.segments, event.previousSegments with
  | some previous, none, some _ => previous.hostId != event.port.hostId
  | _, _, _ => false

end OverlayFabric
