import OverlayFabric.Gateway
import OverlayFabric.Segment
import OverlayFabric.Vlan

namespace OverlayFabric

structure Subnet where
  id : String
  networkId : String
  cidr : String
  gatewayIp : Option Address
  deriving DecidableEq, Repr

namespace Subnet

def addressCidr (subnet : Subnet) (address : Address) : Option GatewayCidr :=
  (GatewayCidr.ofSubnet address subnet.cidr.toList).toOption

def gatewayCidr (subnet : Subnet) : Option GatewayCidr := subnet.gatewayIp.bind subnet.addressCidr

def isV6 (subnet : Subnet) : Bool := subnet.cidr.toList.contains ':'

end Subnet

structure NetworkSegment where
  networkId : String
  kind : SegmentKind
  physicalNetwork : Option String
  segmentationId : Option UInt32
  deriving DecidableEq, Repr

structure ExternalGateway where
  networkId : String
  subnetId : String
  fixedIp : Address
  deriving DecidableEq, Repr

structure Router where
  id : String
  projectId : String
  externalGateway : Option ExternalGateway
  deriving DecidableEq, Repr

structure RouterInterface where
  routerId : String
  subnetId : String
  networkId : String
  projectId : String
  deriving DecidableEq, Repr

structure DynamicSegment where
  networkId : String
  physicalNetwork : String
  vlan : VlanId
  deriving DecidableEq, Repr

end OverlayFabric
