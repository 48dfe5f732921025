import OverlayFabric.Cloud.Codec
import OverlayFabric.Input
import OverlayFabric.Rehearsal

namespace OverlayFabric

def CloudError.read (json : Json) : Except InputFault CloudError :=
  match json.textAt "kind" with
  | "NotFound" => .ok (.notFound (json.textAt "object") (json.textAt "id"))
  | "Unavailable" => .ok (.unavailable (json.textAt "message"))
  | kind => .error (.unknown kind)

def FabricError.read (json : Json) : Except InputFault FabricError :=
  match json.textAt "kind" with
  | "SwitchNotFound" => .ok (.switchNotFound (json.textAt "switch_ip"))
  | "ConnectionFailed" =>
      .ok (.connectionFailed (json.textAt "url") (json.natAt "attempts") (json.textAt "message"))
  | "Api" => .ok (.refused (json.natAt "status") (json.textAt "url") (json.textAt "body"))
  | "Decode" => .ok (.undecodable (json.textAt "url") (json.textAt "message"))
  | "InvalidRequest" => .ok (.invalidRequest (json.textAt "message"))
  | kind => .error (.unknown kind)

/-- A rule of the kind `none` makes no call fail. -/
def Rule.read {ε : Type} (failure : Json → Except InputFault ε) (json : Json) :
    Except InputFault (Rule ε) := do
  let failure ← if json.textAt "kind" = "none" then pure none else some <$> failure json
  return {
    call := json.textAt "call", target := json.text? "on", skip := json.natAt "skip",
    times := json.nat? "times", failure, takesLock := json.boolAt "lock", matched := 0 }

namespace CloudContents

def addPort (contents : CloudContents) (port : Port) (subnet : String) : CloudContents :=
  { contents with ports := contents.ports ++ [(port, subnet)] }

def removePort (contents : CloudContents) (id : String) : CloudContents :=
  { contents with ports := contents.ports.filter (·.1.id != id) }

def arrange? (contents : CloudContents) (json : Json) : Option (Except InputFault CloudContents) :=
  let id := json.textAt "id"
  match json.textAt "do" with
  | "add_port" => some do
      return contents.addPort (← json.require Port.decode "port") (json.textAt "subnet_id")
  | "remove_port" => some (.ok (contents.removePort id))
  | "add_subnet" => some do
      let subnet ← json.require Subnet.decode "subnet"
      return { contents with subnets := contents.subnets.insert subnet.id subnet }
  | "remove_subnet" => some (.ok { contents with subnets := contents.subnets.erase id })
  | "set_segment" => some do
      let segment ← json.require NetworkSegment.decode "segment"
      return { contents with segments := contents.segments.insert segment.networkId segment }
  | "remove_segment" => some (.ok { contents with segments := contents.segments.erase id })
  | "add_router" => some do
      let router ← json.require Router.decode "router"
      return { contents with routers := contents.routers.insert router.id router }
  | "remove_router" => some (.ok { contents with routers := contents.routers.erase id })
  | "add_network" => some (.ok { contents with networks := contents.networks ++ [id] })
  | "add_interface" => some do
      let interface ← json.require RouterInterface.decode "interface"
      let interfaces := contents.interfaces.insert interface.subnetId interface
      return { contents with interfaces }
  | "remove_interface" => some (.ok { contents with interfaces := contents.interfaces.erase id })
  | "set_dynamic" => some do
      let vlan ← Json.check (VlanId.check (json.natAt "vlan"))
      return contents.setDynamic ⟨json.textAt "network_id", json.textAt "physnet", vlan⟩
  | _ => none

end CloudContents

namespace Rehearsal

def arrange? (rehearsal : Rehearsal) (json : Json) : Option (Except InputFault Rehearsal) :=
  match json.textAt "do" with
  | "fail_cloud" => some do
      let rule ← Rule.read CloudError.read json
      return { rehearsal with cloudRules := rehearsal.cloudRules ++ [rule] }
  | "fail_fabric" => some do
      let rule ← Rule.read FabricError.read json
      return { rehearsal with fabricRules := rehearsal.fabricRules ++ [rule] }
  | "clear_failures" => some (.ok { rehearsal with cloudRules := [], fabricRules := [] })
  | "lock" => some (.ok { rehearsal with lock := .held })
  | "unlock" => some (.ok { rehearsal with lock := .free })
  | _ => (rehearsal.cloud.arrange? json).map fun cloud =>
      cloud.map fun cloud => { rehearsal with cloud }

end Rehearsal
end OverlayFabric
