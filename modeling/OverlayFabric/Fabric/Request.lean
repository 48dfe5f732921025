import OverlayFabric.Cloud.Codec

namespace OverlayFabric

structure L2Request where
  switch : String
  projectId : String
  networkId : String
  /-- Given for the gateway of a router on a border leaf. -/
  routerId : Option String
  vni : SegmentId
  vlan : VlanId
  interfaces : List String
  gateway : Option GatewayCidr
  deriving DecidableEq, Repr

inductive VrfMode where
  /-- The first interface of a router on the switch. -/
  | create
  | attach
  /-- The last interface goes. -/
  | delete
  | detach
  deriving DecidableEq, Repr

namespace VrfMode

def forPush (vrfExists : Bool) : VrfMode := if vrfExists then .attach else .create

def forRetract (lastInterface : Bool) : VrfMode := if lastInterface then .delete else .detach

def isPush : VrfMode → Bool
  | .create | .attach => true
  | .delete | .detach => false

def name : VrfMode → String
  | .create => "CreateVrf"
  | .attach => "AttachInterface"
  | .delete => "DeleteVrf"
  | .detach => "DetachInterface"

def action : VrfMode → String
  | .create => "neutron_create_router"
  | .attach => "neutron_create_router_interface"
  | .delete => "neutron_delete_router"
  | .detach => "neutron_delete_router_interface"

end VrfMode

structure VrfRequest where
  switch : String
  mode : VrfMode
  projectId : String
  networkId : String
  routerId : String
  routerVni : SegmentId
  l2Vni : Option SegmentId
  vlan : VlanId
  gateway : Option GatewayCidr
  /-- The gateway is the default route out of the fabric. -/
  isExternal : Bool
  deriving DecidableEq, Repr

def VrfRequest.withMode (request : VrfRequest) (mode : VrfMode) : VrfRequest := { request with mode }

def givenField {α : Type} (name : String) (encode : α → Json) (value : Option α) :
    List (String × Json) :=
  (value.map fun value => (name, encode value)).toList

def L2Request.body (request : L2Request) : Json :=
  .object ([
    ("project_id", .str request.projectId),
    ("network_id", .str request.networkId),
    ("vni", request.vni.encode),
    ("vlan_id", request.vlan.encode),
    ("interfaces", .arr (request.interfaces.map .str))] ++
    givenField "router_id" .str request.routerId ++
    givenField "gw_ip" GatewayCidr.encode request.gateway)

def VrfRequest.body (request : VrfRequest) : Json :=
  .object ([
    ("project_id", .str request.projectId),
    ("network_id", .str request.networkId),
    ("router_id", .str request.routerId),
    ("router_vni", request.routerVni.encode),
    ("vlan_id", request.vlan.encode)] ++
    givenField "l2_vni" SegmentId.encode request.l2Vni ++
    givenField "gw_ip" GatewayCidr.encode request.gateway ++
    if request.isExternal then [("if_ext_gw", .bool true)] else [])

inductive Call where
  | pushL2 (request : L2Request)
  | retractL2 (request : L2Request)
  | pushVrf (request : VrfRequest)
  | retractVrf (request : VrfRequest)
  deriving DecidableEq, Repr

namespace Call

def switch : Call → String
  | .pushL2 request | .retractL2 request => request.switch
  | .pushVrf request | .retractVrf request => request.switch

def name : Call → String
  | .pushL2 _ => "push_l2"
  | .retractL2 _ => "retract_l2"
  | .pushVrf _ => "push_vrf"
  | .retractVrf _ => "retract_vrf"

def mode : Call → Option VrfMode
  | .pushL2 _ | .retractL2 _ => none
  | .pushVrf request | .retractVrf request => some request.mode

def body : Call → Json
  | .pushL2 request | .retractL2 request => request.body
  | .pushVrf request | .retractVrf request => request.body

def encode (call : Call) : Json :=
  .object [
    ("call", .str call.name),
    ("switch", .str call.switch),
    ("mode", .option (fun mode => .str mode.name) call.mode),
    ("body", call.body)]

end Call
end OverlayFabric
