import OverlayFabric.Fabric.Request
import OverlayFabric.Input

namespace OverlayFabric

def VrfMode.read (json : Json) (name : String) : Except InputFault VrfMode :=
  match json.textAt name with
  | "create" => .ok .create
  | "attach" => .ok .attach
  | "delete" => .ok .delete
  | "detach" => .ok .detach
  | word => .error (.unknown word)

def VrfMode.encode (mode : VrfMode) : Json :=
  .object [
    ("mode", .str mode.name),
    ("action", .str mode.action),
    ("is_push", .bool mode.isPush)]

def readGateway (json : Json) : Except InputFault (Option GatewayCidr) :=
  match json.text? "gw_ip" with
  | none => .ok none
  | some text => some <$> Json.check (GatewayCidr.read text.toList)

def L2Request.read (json : Json) : Except InputFault L2Request := do
  let vni ← Json.check (SegmentId.check (json.natAt "vni"))
  let vlan ← Json.check (VlanId.check (json.natAt "vlan_id"))
  let gateway ← readGateway json
  return {
    switch := json.textAt "switch_ip", projectId := json.textAt "project_id",
    networkId := json.textAt "network_id", routerId := json.text? "router_id", vni, vlan,
    interfaces := json.textsAt "interfaces", gateway }

def VrfRequest.read (json : Json) : Except InputFault VrfRequest := do
  let mode ← VrfMode.read json "mode"
  let routerVni ← Json.check (SegmentId.check (json.natAt "router_vni"))
  let l2Vni ← (json.nat? "l2_vni").mapM fun id => Json.check (SegmentId.check id)
  let vlan ← Json.check (VlanId.check (json.natAt "vlan_id"))
  let gateway ← readGateway json
  return {
    switch := json.textAt "switch_ip", mode, projectId := json.textAt "project_id",
    networkId := json.textAt "network_id", routerId := json.textAt "router_id", routerVni, l2Vni,
    vlan, gateway, isExternal := json.boolAt "if_ext_gw" }

end OverlayFabric
