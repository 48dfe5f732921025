import OverlayFabric.Cloud.Codec
import OverlayFabric.Store.Allocator
import OverlayFabric.Store.Snapshot

namespace OverlayFabric

def IdRange.encode (range : IdRange) : Json := .arr [.nat range.min, .nat range.max]

def RangeSet.encode (set : RangeSet) : Json :=
  .object [
    ("ranges", .arr (set.ranges.map IdRange.encode)),
    ("len", .nat set.size),
    ("display", .str (toString set))]

def PoolRanges.encode (ranges : PoolRanges) : Json :=
  .object [
    ("l2_segment", ranges.l2.encode),
    ("l3_segment", ranges.l3.encode),
    ("border_vlan", .keyed RangeSet.encode ranges.border)]

def SyncReport.encode (report : SyncReport) : Json :=
  .object [
    ("inserted", .nat report.inserted),
    ("deleted", .nat report.deleted),
    ("stranded", .nat report.stranded)]

def SyncSummary.encode (summary : SyncSummary) : Json :=
  .object [
    ("l2_segment", summary.l2.encode),
    ("l3_segment", summary.l3.encode),
    ("border_vlan", .keyed SyncReport.encode summary.border)]

def PoolStats.encode (stats : PoolStats) : Json :=
  .object [
    ("total", .nat stats.total),
    ("used", .nat stats.used),
    ("free", .nat stats.free)]

def StatsReport.encode (report : StatsReport) : Json :=
  .object [
    ("l2_segment", report.l2.encode),
    ("l3_segment", report.l3.encode),
    ("border_vlan", .keyed PoolStats.encode report.border),
    ("bindings", .nat report.bindings)]

namespace OwnedRow

def precedes (a b : OwnedRow) : Bool :=
  let scope := fun (row : OwnedRow) => row.scope.getD ""
  scope a < scope b || (scope a == scope b && (a.id < b.id || (a.id == b.id && a.owner ≤ b.owner)))

def encode (row : OwnedRow) : Json :=
  .arr ((row.scope.map Json.str).toList ++ [.nat row.id, .str row.owner])

end OwnedRow

namespace PoolRow

def precedes (a b : PoolRow) : Bool :=
  let scope := fun (row : PoolRow) => row.scope.getD ""
  scope a < scope b || (scope a == scope b && a.id ≤ b.id)

def encodeAll (rows : List PoolRow) : Json := .arr ((rows.mergeSort precedes).map encode)

end PoolRow

namespace SegmentPool

def encodeOwners (owners : List (SegmentId × String)) : Json :=
  let rows := owners.map fun (id, owner) => OwnedRow.mk none id.val owner
  .arr ((rows.mergeSort OwnedRow.precedes).map OwnedRow.encode)

end SegmentPool

namespace BorderPool

def encodeOwners (owners : List (String × VlanId × String)) : Json :=
  let rows := owners.map fun (switch, vlan, owner) => OwnedRow.mk (some switch) vlan.val owner
  .arr ((rows.mergeSort OwnedRow.precedes).map OwnedRow.encode)

def encodeHeld (held : List (String × VlanId)) : Json :=
  .arr (held.map fun (switch, vlan) => .arr [.str switch, vlan.encode])

end BorderPool

def Store.encodePool (store : Store) (pool : Pool) : Except StoreError Json := do
  let rows := store.rows pool
  let owned ← pool.owned rows
  return .object [
    ("owned", .arr ((owned.mergeSort OwnedRow.precedes).map OwnedRow.encode)),
    ("free", .nat (pool.stats none rows).free)]

def Binding.encode (binding : Binding) : Json :=
  .object [
    ("binding_id", .nat binding.number),
    ("switch_ip", .str binding.switch),
    ("subnet_id", .str binding.subnet),
    ("vlan_id", binding.vlan.encode),
    ("l2_segment_id", binding.l2.encode),
    ("configured", .bool binding.configured),
    ("router_id", .option .str binding.router),
    ("l3_segment_id", .option SegmentId.encode binding.l3)]

def Binding.encodeAll (bindings : List Binding) : Json := .arr (bindings.map encode)

end OverlayFabric
