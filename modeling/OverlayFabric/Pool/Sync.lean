import OverlayFabric.Pool.Basic
import OverlayFabric.Range.Basic
import Std.Data.HashSet

namespace OverlayFabric

structure SyncReport where
  inserted : Nat
  deleted : Nat
  stranded : Nat
  deriving DecidableEq, Repr

namespace Pool

def missing (ranges : RangeSet) (present : List Nat) : List Nat :=
  let known := Std.HashSet.ofList present
  ranges.ids.filter fun id => !known.contains id

theorem mem_missing {ranges : RangeSet} {present : List Nat} {id : Nat} :
    id ∈ missing ranges present ↔ ranges.contains id = true ∧ id ∉ present := by
  simp [missing, RangeSet.mem_ids]

def covers (ranges : RangeSet) (row : PoolRow) : Bool := ranges.contains row.id.toNat

def sync (pool : Pool) (lock : Lock) (scope : Option String) (ranges : RangeSet)
    (rows : List PoolRow) : Except StoreError (SyncReport × List PoolRow) := do
  lock.claim s!"lock {pool.table}"
  let scope := pool.scopeOf scope
  let here := rows.filter (·.inScope scope)
  let present ← here.mapM (pool.word ·.id)
  let absent := missing ranges present
  if pool.isScoped && scope.isNone && !absent.isEmpty then
    throw (.database "sync insert" false)
  let obsolete := fun (row : PoolRow) => row.isFreeIn scope && !covers ranges row
  let kept := rows.filter (!obsolete ·)
  let fresh := absent.map fun (id : Nat) => PoolRow.mk scope id ""
  return (⟨absent.length, rows.countP obsolete,
    here.countP fun row => !row.isFree && !covers ranges row⟩, pool.place kept fresh)

end Pool
end OverlayFabric
