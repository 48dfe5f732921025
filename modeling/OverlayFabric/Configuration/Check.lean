import OverlayFabric.Address
import OverlayFabric.Configuration.Basic
import OverlayFabric.Range.Reader
import OverlayFabric.SyncError

namespace OverlayFabric
open Text

structure PoolRanges where
  l2 : RangeSet
  l3 : RangeSet
  border : Keyed RangeSet
  deriving DecidableEq, Repr

def isBlankText (text : String) : Bool := (trim text.toList).isEmpty

def checkRanges (field : String) (bounds : PoolBounds) (lines : List String) :
    Except SyncError RangeSet :=
  match readRanges bounds (lines.map String.toList) with
  | .ok ranges => .ok ranges
  | .error fault => .error (.configuration field fault.message)

def checkSwitch (table switch : String) : Except SyncError Unit :=
  if (Address.read? switch.toList).isSome then .ok ()
  else .error (.configuration table s!"'{switch}' is not a switch IP address")

def checkNames (field reason : String) (names : List String) : Except SyncError Unit :=
  if names.any isBlankText then .error (.configuration field reason) else .ok ()

def checkLeaf (switch : String) (leaf : LeafSettings) : Except SyncError Unit := do
  checkSwitch "leaf_switches" switch
  checkNames s!"leaf_switches.{switch}.physnet" "empty physical network" leaf.physnet.toList
  checkNames s!"leaf_switches.{switch}.host_ports_mapping" "empty host name" leaf.hostPorts.keys

def checkBorder (switch : String) (border : BorderSettings) : Except SyncError RangeSet := do
  checkSwitch "border_switches" switch
  checkNames s!"border_switches.{switch}.physical_network_ports_mapping" "empty physical network"
    border.physnetPorts.keys
  checkRanges s!"border_switches.{switch}.vlan_ranges" .borderVlan border.vlanRanges

def checkLeaves : List (String × LeafSettings) → Except SyncError Unit
  | [] => .ok ()
  | (switch, leaf) :: rest => do
      checkLeaf switch leaf
      checkLeaves rest

def checkBorders : List (String × BorderSettings) → Except SyncError (List (String × RangeSet))
  | [] => .ok []
  | (switch, border) :: rest => do
      let ranges ← checkBorder switch border
      return (switch, ranges) :: (← checkBorders rest)

def Configuration.check (configuration : Configuration) : Except SyncError PoolRanges := do
  let l2 ← checkRanges "pools.l2_segment_ranges" .l2Segment configuration.pools.l2Ranges
  let l3 ← checkRanges "pools.l3_segment_ranges" .l3Segment configuration.pools.l3Ranges
  checkLeaves configuration.leafSwitches.pairs
  let border ← checkBorders configuration.borderSwitches.pairs
  return { l2, l3, border := .ofList border }

end OverlayFabric
