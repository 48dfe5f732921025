import OverlayFabric.Store.Report
import OverlayFabric.Synchronizer.Task

namespace OverlayFabric

structure ReapReport where
  l2 : List String
  l3 : List String
  border : List (String × String)
  deriving DecidableEq, Repr

namespace ReapReport

def isEmpty (report : ReapReport) : Bool :=
  report.l2.isEmpty && report.l3.isEmpty && report.border.isEmpty

def encodeOwners (owners : List String) : Json :=
  .arr ((owners.mergeSort (· ≤ ·)).map .str)

def encode (report : ReapReport) : Json :=
  let border := report.border.mergeSort fun a b => a.1 < b.1 || (a.1 == b.1 && a.2 ≤ b.2)
  .object [
    ("l2_segment", encodeOwners report.l2),
    ("l3_segment", encodeOwners report.l3),
    ("border_vlan", .arr (border.map fun (switch, owner) => .arr [.str switch, .str owner])),
    ("is_empty", .bool report.isEmpty)]

end ReapReport

namespace Synchronizer

variable {ω : Type}

def ofConfiguration (configuration : Configuration) (ranges : PoolRanges) (outside : Outside ω) :
    Synchronizer ω where
  outside := outside
  topology := .ofConfiguration configuration
  allocators := .ofRanges ranges
  allowedPhysnets := configuration.allowedPhysnets

def syncAll (sync : Synchronizer ω) : Task ω SyncSummary :=
  .store sync.outside fun lock => sync.allocators.syncAll lock

def stats (sync : Synchronizer ω) : Task ω StatsReport :=
  .store sync.outside fun _ => sync.allocators.stats

def reapSegments (sync : Synchronizer ω) (segments : SegmentPool) (known : String → Bool) :
    List (SegmentId × String) → Task ω (List String)
  | [] => return []
  | (id, owner) :: rest => do
      if segments.inRange id || known owner then sync.reapSegments segments known rest
      else
        let _ ← Task.store sync.outside fun lock => segments.releaseId lock id
        return owner :: (← sync.reapSegments segments known rest)

def reapBorder (sync : Synchronizer ω) (known : String → Bool) :
    List (String × VlanId × String) → Task ω (List (String × String))
  | [] => return []
  | (switch, vlan, owner) :: rest => do
      if (sync.allocators.border.rangesOf switch).contains vlan.val || known owner then
        sync.reapBorder known rest
      else
        let _ ← Task.store sync.outside fun lock =>
          sync.allocators.border.release lock switch owner
        return (switch, owner) :: (← sync.reapBorder known rest)

/-- Layer-3 segments and border VLANs belong to routers, layer-2 segments to routers or networks. -/
def reap (sync : Synchronizer ω) : Task ω ReapReport := do
  let routers ← .ask sync.outside .routerIds
  let networks ← .ask sync.outside .networkIds
  let l3Owners ← .store sync.outside fun _ => sync.allocators.l3.owners
  let l3 ← sync.reapSegments sync.allocators.l3 routers.contains l3Owners
  let l2Owners ← .store sync.outside fun _ => sync.allocators.l2.owners
  let l2 ← sync.reapSegments sync.allocators.l2
    (fun owner => routers.contains owner || networks.contains owner) l2Owners
  let borderOwners ← .store sync.outside fun _ => BorderPool.owners
  let border ← sync.reapBorder routers.contains borderOwners
  return { l2, l3, border }

def start (sync : Synchronizer ω) : Task ω Unit := do
  let _ ← sync.syncAll
  let _ ← sync.reap

end Synchronizer
end OverlayFabric
