import OverlayFabric.Configuration.Check
import OverlayFabric.Store.Basic

namespace OverlayFabric

structure SegmentPool where
  pool : Pool
  ranges : RangeSet
  deriving DecidableEq, Repr

namespace SegmentPool

def inRange (segments : SegmentPool) (id : SegmentId) : Bool := segments.ranges.contains id.val

def segment (segments : SegmentPool) (id : Nat) : Except StoreError SegmentId :=
  match SegmentId.ofNat? id with
  | some segment => .ok segment
  | none => .error (.corrupt segments.pool.table (Malformed.segment id).message)

def sync (segments : SegmentPool) (lock : Lock) : StoreM SyncReport :=
  .onPool segments.pool (segments.pool.sync lock none segments.ranges)

def allocate (segments : SegmentPool) (lock : Lock) (owner : String) : StoreM SegmentId := do
  let id ← .onPool segments.pool (segments.pool.allocate lock none segments.ranges owner)
  .ofExcept (segments.segment id)

def release (segments : SegmentPool) (lock : Lock) (owner : String) : StoreM (Option SegmentId) := do
  let ids ← .onPool segments.pool (segments.pool.release lock none segments.ranges owner)
  .ofExcept (ids.head?.mapM segments.segment)

def reserve (segments : SegmentPool) (lock : Lock) (id : SegmentId) (owner : String) : StoreM Unit :=
  .onPool segments.pool fun rows =>
    (segments.pool.reserve lock none id.val owner rows).map fun rows => ((), rows)

def releaseId (segments : SegmentPool) (lock : Lock) (id : SegmentId) : StoreM Bool :=
  .onPool segments.pool (segments.pool.releaseId lock none segments.ranges id.val)

def find (segments : SegmentPool) (owner : String) : StoreM (Option SegmentId) :=
  .read fun store => do
    let id ← segments.pool.find none owner (store.rows segments.pool)
    id.mapM segments.segment

def owners (segments : SegmentPool) : StoreM (List (SegmentId × String)) :=
  .read fun store => do
    let rows ← segments.pool.owned (store.rows segments.pool)
    rows.mapM fun row => (segments.segment row.id).map fun id => (id, row.owner)

def stats (segments : SegmentPool) : StoreM PoolStats :=
  .read fun store => .ok (segments.pool.stats none (store.rows segments.pool))

end SegmentPool

structure BorderPool where
  ranges : Keyed RangeSet
  deriving DecidableEq, Repr

namespace BorderPool

def rangesOf (border : BorderPool) (switch : String) : RangeSet :=
  (border.ranges.get? switch).getD .empty

def switches (border : BorderPool) : List String := border.ranges.keys

def vlan (id : Nat) : Except StoreError VlanId :=
  match VlanId.ofNat? id with
  | some vlan => .ok vlan
  | none => .error (.corrupt Pool.borderVlan.table (Malformed.vlan id).message)

def syncEach (border : BorderPool) (lock : Lock) : List String → StoreM (List (String × SyncReport))
  | [] => return []
  | switch :: rest => do
      let report ← .onPool .borderVlan
        (Pool.borderVlan.sync lock (some switch) (border.rangesOf switch))
      return (switch, report) :: (← border.syncEach lock rest)

/-- Every configured switch, then every other that has rows. -/
def toSync (border : BorderPool) (store : Store) : List String :=
  border.switches ++ (Pool.borderVlan.scopes store.border).filter (!border.ranges.contains ·)

def sync (border : BorderPool) (lock : Lock) : StoreM (Keyed SyncReport) := do
  let switches ← .read fun store => .ok (border.toSync store)
  return .ofList (← border.syncEach lock switches)

def allocate (border : BorderPool) (lock : Lock) (switch owner : String) : StoreM VlanId := do
  let id ← .onPool .borderVlan
    (Pool.borderVlan.allocate lock (some switch) (border.rangesOf switch) owner)
  .ofExcept (vlan id)

def release (border : BorderPool) (lock : Lock) (switch owner : String) : StoreM (Option VlanId) := do
  let ids ← .onPool .borderVlan
    (Pool.borderVlan.release lock (some switch) (border.rangesOf switch) owner)
  .ofExcept (ids.head?.mapM vlan)

def find (switch owner : String) : StoreM (Option VlanId) :=
  .read fun store => do
    let id ← Pool.borderVlan.find (some switch) owner store.border
    id.mapM vlan

def owners : StoreM (List (String × VlanId × String)) :=
  .read fun store => do
    let rows ← Pool.borderVlan.owned store.border
    (rows.filterMap fun row => row.scope.map fun switch => (switch, row)).mapM
      fun (switch, row) => (vlan row.id).map fun id => (switch, id, row.owner)

def holdsBefore (a b : String × VlanId) : Bool :=
  a.1 < b.1 || (a.1 == b.1 && a.2.val ≤ b.2.val)

def heldBy (owner : String) : StoreM (List (String × VlanId)) :=
  .read fun store => do
    let rows ← Pool.borderVlan.owned store.border
    let held := (rows.filter (·.owner == owner)).filterMap fun row =>
      row.scope.map fun switch => (switch, row)
    let pairs ← held.mapM fun (switch, row) => (vlan row.id).map fun id => (switch, id)
    return pairs.mergeSort holdsBefore

def stats (switch : String) : StoreM PoolStats :=
  .read fun store => .ok (Pool.borderVlan.stats (some switch) store.border)

end BorderPool

structure Allocators where
  l2 : SegmentPool
  l3 : SegmentPool
  border : BorderPool
  deriving DecidableEq, Repr

def Allocators.ofRanges (ranges : PoolRanges) : Allocators where
  l2 := ⟨.l2Segment, ranges.l2⟩
  l3 := ⟨.l3Segment, ranges.l3⟩
  border := ⟨ranges.border⟩

structure SyncSummary where
  l2 : SyncReport
  l3 : SyncReport
  border : Keyed SyncReport
  deriving DecidableEq, Repr

structure StatsReport where
  l2 : PoolStats
  l3 : PoolStats
  border : Keyed PoolStats
  bindings : Nat
  deriving DecidableEq, Repr

namespace Allocators

def syncAll (allocators : Allocators) (lock : Lock) : StoreM SyncSummary := do
  let l2 ← allocators.l2.sync lock
  let l3 ← allocators.l3.sync lock
  let border ← allocators.border.sync lock
  return { l2, l3, border }

def stats (allocators : Allocators) : StoreM StatsReport := do
  let border ← allocators.border.switches.mapM fun switch => do
    return (switch, ← BorderPool.stats switch)
  let l2 ← allocators.l2.stats
  let l3 ← allocators.l3.stats
  let bindings ← .read fun store => store.bindings.list
  return { l2, l3, border := .ofList border, bindings := bindings.length }

end Allocators
end OverlayFabric
