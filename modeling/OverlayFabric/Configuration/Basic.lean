import OverlayFabric.Keyed

namespace OverlayFabric

structure ControllerSettings where
  authUri : String := "http://127.0.0.1:9696"
  username : String := ""
  password : String := ""
  dryRun : Bool := true
  timeoutSeconds : Nat := 30
  /-- Attempts after the first, for requests that may be repeated. -/
  retries : Nat := 3
  retryIntervalMs : Nat := 1000
  deriving DecidableEq, Repr

structure DatabaseSettings where
  path : String := "/var/lib/fabricsync/fabricsync.db"
  maxReaders : Nat := 4
  busyTimeoutMs : Nat := 5000
  deriving DecidableEq, Repr

structure SegmentPoolSettings where
  l2Ranges : List String := []
  l3Ranges : List String := []
  deriving DecidableEq, Repr

structure LeafSettings where
  physnet : Option String := none
  hostPorts : Keyed (List String) := .empty
  deriving DecidableEq, Repr

structure BorderSettings where
  vlanRanges : List String := []
  physnetPorts : Keyed (List String) := .empty
  deriving DecidableEq, Repr

structure Configuration where
  fabric : ControllerSettings := {}
  database : DatabaseSettings := {}
  pools : SegmentPoolSettings := {}
  leafSwitches : Keyed LeafSettings := .empty
  borderSwitches : Keyed BorderSettings := .empty
  /-- The physical networks that external networks may use; none listed allows any. -/
  allowedPhysnets : List String := []
  deriving DecidableEq, Repr

end OverlayFabric
