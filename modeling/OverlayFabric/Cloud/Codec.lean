import OverlayFabric.Cloud.Network
import OverlayFabric.Cloud.Port
import OverlayFabric.Json.Record

namespace OverlayFabric

def VlanId.decode : Decode VlanId := fun json => (Decode.word json).bind ofNat?

def VlanId.encode (vlan : VlanId) : Json := .nat vlan.val

def SegmentId.decode : Decode SegmentId := fun json => (Decode.word json).bind ofNat?

def SegmentId.encode (segment : SegmentId) : Json := .nat segment.val

def Address.decode : Decode Address := fun json =>
  (Decode.string json).bind fun text => read? text.toList

def Address.encode (address : Address) : Json := .str (String.ofList address.text)

def GatewayCidr.decode : Decode GatewayCidr := fun json => (Decode.string json).bind ofText?

def GatewayCidr.encode (cidr : GatewayCidr) : Json := .str (String.ofList cidr.text)

namespace OwnerClass

def name : OwnerClass → String
  | .compute => "compute"
  | .baremetal => "baremetal"
  | .manila => "manila"
  | .dhcp => "dhcp"
  | .routerInterface => "router_interface"
  | .routerGateway => "router_gateway"
  | .routerHaInterface => "router_ha_interface"
  | .other => "other"

def all : List OwnerClass :=
  [.compute, .baremetal, .manila, .dhcp, .routerInterface, .routerGateway, .routerHaInterface, .other]

def decode : Decode OwnerClass := Decode.oneOf (all.map fun owner => (owner.name, owner))

def encode (owner : OwnerClass) : Json := .str owner.name

end OwnerClass

namespace SegmentKind

def name : SegmentKind → String
  | .tenantOverlay => "tenant_overlay"
  | .externalNet => "external_net"
  | .vlan => "vlan"
  | .other => "other"

def all : List SegmentKind := [.tenantOverlay, .externalNet, .vlan, .other]

def decode : Decode SegmentKind := Decode.oneOf (all.map fun kind => (kind.name, kind))

def encode (kind : SegmentKind) : Json := .str kind.name

end SegmentKind

namespace PortStatus

def name : PortStatus → String
  | .active => "ACTIVE"
  | .build => "BUILD"
  | .down => "DOWN"
  | .error => "ERROR"

def all : List PortStatus := [.active, .build, .down, .error]

def decode : Decode PortStatus := Decode.oneOf (all.map fun status => (status.name, status))

def encode (status : PortStatus) : Json := .str status.name

end PortStatus

namespace Port

def fieldNames : List String :=
  ["id", "network_id", "project_id", "device_owner", "host_id", "status"]

def decode : Decode Port := fun json => do
  let fields ← Fields.of? fieldNames json
  let id ← fields.get "id" .string
  let networkId ← fields.get "network_id" .string
  let projectId ← fields.get "project_id" .string
  let deviceOwner ← fields.get "device_owner" .string
  let hostId ← fields.get "host_id" .string
  let status ← fields.get "status" PortStatus.decode
  return { id, networkId, projectId, deviceOwner, hostId, status }

def encode (port : Port) : Json :=
  .object [
    ("id", .str port.id),
    ("network_id", .str port.networkId),
    ("project_id", .str port.projectId),
    ("device_owner", .str port.deviceOwner),
    ("host_id", .str port.hostId),
    ("status", port.status.encode)]

end Port

namespace PortSegments

def fieldNames : List String := ["overlay", "vlan", "physical_network"]

def decode : Decode PortSegments := fun json => do
  let fields ← Fields.of? fieldNames json
  let overlay ← fields.get "overlay" SegmentId.decode
  let vlan ← fields.get "vlan" VlanId.decode
  let physicalNetwork ← fields.get "physical_network" .string
  return { overlay, vlan, physicalNetwork }

def encode (segments : PortSegments) : Json :=
  .object [
    ("overlay", segments.overlay.encode),
    ("vlan", segments.vlan.encode),
    ("physical_network", .str segments.physicalNetwork)]

end PortSegments

namespace Subnet

def fieldNames : List String := ["id", "network_id", "cidr", "gateway_ip"]

def decode : Decode Subnet := fun json => do
  let fields ← Fields.of? fieldNames json
  let id ← fields.get "id" .string
  let networkId ← fields.get "network_id" .string
  let cidr ← fields.get "cidr" .string
  let gatewayIp ← fields.getOption "gateway_ip" Address.decode
  return { id, networkId, cidr, gatewayIp }

def encode (subnet : Subnet) : Json :=
  .object [
    ("id", .str subnet.id),
    ("network_id", .str subnet.networkId),
    ("cidr", .str subnet.cidr),
    ("gateway_ip", .option Address.encode subnet.gatewayIp)]

end Subnet

namespace NetworkSegment

def fieldNames : List String :=
  ["network_id", "segment_type", "physical_network", "segmentation_id"]

def decode : Decode NetworkSegment := fun json => do
  let fields ← Fields.of? fieldNames json
  let networkId ← fields.get "network_id" .string
  let kind ← fields.get "segment_type" SegmentKind.decode
  let physicalNetwork ← fields.getOption "physical_network" .string
  let segmentationId ← fields.getOption "segmentation_id" .word32
  return { networkId, kind, physicalNetwork, segmentationId }

def encode (segment : NetworkSegment) : Json :=
  .object [
    ("network_id", .str segment.networkId),
    ("segment_type", segment.kind.encode),
    ("physical_network", .option .str segment.physicalNetwork),
    ("segmentation_id", .option (fun id => .nat id.toNat) segment.segmentationId)]

end NetworkSegment

namespace ExternalGateway

def fieldNames : List String := ["network_id", "subnet_id", "fixed_ip"]

def decode : Decode ExternalGateway := fun json => do
  let fields ← Fields.of? fieldNames json
  let networkId ← fields.get "network_id" .string
  let subnetId ← fields.get "subnet_id" .string
  let fixedIp ← fields.get "fixed_ip" Address.decode
  return { networkId, subnetId, fixedIp }

def encode (gateway : ExternalGateway) : Json :=
  .object [
    ("network_id", .str gateway.networkId),
    ("subnet_id", .str gateway.subnetId),
    ("fixed_ip", gateway.fixedIp.encode)]

end ExternalGateway

namespace Router

def fieldNames : List String := ["id", "project_id", "external_gateway"]

def decode : Decode Router := fun json => do
  let fields ← Fields.of? fieldNames json
  let id ← fields.get "id" .string
  let projectId ← fields.get "project_id" .string
  let externalGateway ← fields.getOption "external_gateway" ExternalGateway.decode
  return { id, projectId, externalGateway }

def encode (router : Router) : Json :=
  .object [
    ("id", .str router.id),
    ("project_id", .str router.projectId),
    ("external_gateway", .option ExternalGateway.encode router.externalGateway)]

end Router

namespace RouterInterface

def fieldNames : List String := ["router_id", "subnet_id", "network_id", "project_id"]

def decode : Decode RouterInterface := fun json => do
  let fields ← Fields.of? fieldNames json
  let routerId ← fields.get "router_id" .string
  let subnetId ← fields.get "subnet_id" .string
  let networkId ← fields.get "network_id" .string
  let projectId ← fields.get "project_id" .string
  return { routerId, subnetId, networkId, projectId }

def encode (interface : RouterInterface) : Json :=
  .object [
    ("router_id", .str interface.routerId),
    ("subnet_id", .str interface.subnetId),
    ("network_id", .str interface.networkId),
    ("project_id", .str interface.projectId)]

end RouterInterface

namespace DynamicSegment

def fieldNames : List String := ["network_id", "physical_network", "vlan"]

def decode : Decode DynamicSegment := fun json => do
  let fields ← Fields.of? fieldNames json
  let networkId ← fields.get "network_id" .string
  let physicalNetwork ← fields.get "physical_network" .string
  let vlan ← fields.get "vlan" VlanId.decode
  return { networkId, physicalNetwork, vlan }

def encode (segment : DynamicSegment) : Json :=
  .object [
    ("network_id", .str segment.networkId),
    ("physical_network", .str segment.physicalNetwork),
    ("vlan", segment.vlan.encode)]

end DynamicSegment
end OverlayFabric
