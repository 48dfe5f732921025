import OverlayFabric.Configuration.Basic

namespace OverlayFabric

structure LeafSwitch where
  ip : String
  physnet : Option String
  hostPorts : Keyed (List String)
  deriving DecidableEq, Repr

namespace LeafSwitch

def hosts (leaf : LeafSwitch) : List String := leaf.hostPorts.keys

def interfaces (leaf : LeafSwitch) : List String := leaf.hostPorts.values.flatten.eraseDups

def serves (leaf : LeafSwitch) (physnet : String) : Bool := leaf.physnet == some physnet

end LeafSwitch

structure BorderSwitch where
  ip : String
  physnetPorts : Keyed (List String)
  deriving DecidableEq, Repr

structure Topology where
  leaves : List LeafSwitch
  borders : List BorderSwitch
  deriving DecidableEq, Repr

namespace Topology

def ofConfiguration (configuration : Configuration) : Topology where
  leaves := configuration.leafSwitches.pairs.map fun (ip, leaf) =>
    ⟨ip, leaf.physnet.filter (· ≠ ""), leaf.hostPorts⟩
  borders := configuration.borderSwitches.pairs.map fun (ip, border) => ⟨ip, border.physnetPorts⟩

def leaf? (topology : Topology) (ip : String) : Option LeafSwitch :=
  topology.leaves.find? (·.ip == ip)

def leavesOf (topology : Topology) (host : String) : List LeafSwitch :=
  topology.leaves.filter (·.hostPorts.contains host)

def physnetOf (topology : Topology) (host : String) : Option String :=
  (topology.leavesOf host).findSome? (·.physnet)

def bordersOf (topology : Topology) (physnet : String) : List (String × List String) :=
  topology.borders.filterMap fun border =>
    (border.physnetPorts.get? physnet).map fun ports => (border.ip, ports)

def borderInterfaces (topology : Topology) (ip physnet : String) : List String :=
  ((topology.borders.find? (·.ip == ip)).bind (·.physnetPorts.get? physnet)).getD []

end Topology
end OverlayFabric
