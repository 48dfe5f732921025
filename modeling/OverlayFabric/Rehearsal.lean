import OverlayFabric.Synchronizer.Task

/-!
A rehearsed outside: a cloud that answers from given contents, a fabric that accepts every call, and
rules that make single calls fail or another writer take the lock. Every rule counts the calls it
matches and acts on a window of them; of the rules that act on a call the first is applied.
-/

namespace OverlayFabric

structure Rule (ε : Type) where
  call : String
  target : Option String
  /-- How many matches pass before the rule acts. -/
  skip : Nat
  times : Option Nat
  failure : Option ε
  takesLock : Bool
  matched : Nat
  deriving DecidableEq, Repr

namespace Rule

variable {ε : Type}

def isAbout (rule : Rule ε) (call : String) (targets : List String) : Bool :=
  rule.call == call && rule.target.all targets.contains

def count (rule : Rule ε) : Rule ε := { rule with matched := rule.matched + 1 }

def acts (rule : Rule ε) : Bool :=
  rule.skip < rule.matched && rule.times.all (rule.matched ≤ rule.skip + ·)

def onCall (rules : List (Rule ε)) (call : String) (targets : List String) :
    Option (Rule ε) × List (Rule ε) :=
  let counted := rules.map fun rule => if rule.isAbout call targets then rule.count else rule
  (counted.find? fun rule => rule.isAbout call targets && rule.acts, counted)

end Rule

/-- What there is in the rehearsed cloud; each port goes with the subnet of its address. -/
structure CloudContents where
  ports : List (Port × String) := []
  subnets : Keyed Subnet := .empty
  segments : Keyed NetworkSegment := .empty
  routers : Keyed Router := .empty
  interfaces : Keyed RouterInterface := .empty
  networks : List String := []
  dynamic : List DynamicSegment := []
  deriving DecidableEq, Repr

namespace CloudContents

def subnetsOf (contents : CloudContents) (network : String) : List Subnet :=
  contents.subnets.values.filter (·.networkId == network)

def networkIds (contents : CloudContents) : List String :=
  contents.networks ++ contents.subnets.values.map (·.networkId) ++ contents.segments.keys

def setDynamic (contents : CloudContents) (segment : DynamicSegment) : CloudContents :=
  { contents with dynamic := segment :: contents.dynamic }

def dynamicSegment (contents : CloudContents) (network physnet : String) : Option DynamicSegment :=
  contents.dynamic.find? fun segment =>
    segment.networkId == network && segment.physicalNetwork == physnet

def answer (contents : CloudContents) : {α : Type} → Query α → α
  | _, .ports hosts subnet =>
      (contents.ports.filter fun (port, at_subnet) =>
        at_subnet == subnet && hosts.contains port.hostId).map Prod.fst
  | _, .subnet id => contents.subnets.get? id
  | _, .subnetsOf network => contents.subnetsOf network
  | _, .segmentOf network => contents.segments.get? network
  | _, .router id => contents.routers.get? id
  | _, .routerIds => contents.routers.keys
  | _, .networkIds => contents.networkIds
  | _, .interfaceOn subnet => contents.interfaces.get? subnet
  | _, .dynamicSegment network physnet => contents.dynamicSegment network physnet

end CloudContents

namespace Query

def name {α : Type} : Query α → String
  | .ports .. => "list_ports"
  | .subnet _ => "subnet"
  | .subnetsOf _ => "subnets_for_network"
  | .segmentOf _ => "network_segment"
  | .router _ => "router"
  | .routerIds => "router_ids"
  | .networkIds => "network_ids"
  | .interfaceOn _ => "router_interface_for_subnet"
  | .dynamicSegment .. => "allocate_dynamic_segment"

def targets {α : Type} : Query α → List String
  | .ports hosts _ => hosts
  | .subnet id => [id]
  | .router id => [id]
  | .subnetsOf network => [network]
  | .segmentOf network => [network]
  | .dynamicSegment network _ => [network]
  | .interfaceOn id => [id]
  | .routerIds | .networkIds => []

end Query

structure Rehearsal where
  cloud : CloudContents := {}
  cloudRules : List (Rule CloudError) := []
  fabricRules : List (Rule FabricError) := []
  lock : Lock := .free
  deriving DecidableEq, Repr

namespace Rehearsal

def lockAfter {ε : Type} (lock : Lock) (rule : Option (Rule ε)) : Lock :=
  if rule.any (·.takesLock) then .held else lock

def ask (rehearsal : Rehearsal) {α : Type} (query : Query α) : Except CloudError α × Rehearsal :=
  let (rule, cloudRules) := Rule.onCall rehearsal.cloudRules query.name query.targets
  let after := { rehearsal with cloudRules, lock := lockAfter rehearsal.lock rule }
  match rule.bind (·.failure) with
  | some failure => (.error failure, after)
  | none => (.ok (rehearsal.cloud.answer query), after)

def send (rehearsal : Rehearsal) (call : Call) : Except FabricError Unit × Rehearsal :=
  let (rule, fabricRules) := Rule.onCall rehearsal.fabricRules call.name [call.switch]
  let after := { rehearsal with fabricRules, lock := lockAfter rehearsal.lock rule }
  match rule.bind (·.failure) with
  | some failure => (.error failure, after)
  | none => (.ok (), after)

def outside : Outside Rehearsal where
  ask query rehearsal := rehearsal.ask query
  send call rehearsal := rehearsal.send call
  lock rehearsal := rehearsal.lock

end Rehearsal
end OverlayFabric
