import OverlayFabric.Pool.Basic
import OverlayFabric.Range.Basic

namespace OverlayFabric.Pool

/-- The last free row inside the ranges; every free row has to fit a word. -/
def lastFree (pool : Pool) (scope : Option String) (ranges : RangeSet) (rows : List PoolRow) :
    Except StoreError (Option Nat) :=
  (rows.filter (·.isFreeIn (pool.scopeOf scope))).foldlM (fun candidate row => do
    let id ← pool.word row.id
    return if ranges.contains id then some id else candidate) none

/-- Gives the free rows of an identifier to an owner that holds none, and counts them. A scope given
to a pool without scopes is looked for in place of the owner. -/
def take (pool : Pool) (scope : Option String) (id : Nat) (owner : String) (rows : List PoolRow) :
    List PoolRow × Nat :=
  let holder := if pool.isScoped then owner else scope.getD owner
  let scope := pool.scopeOf scope
  if rows.any (·.isOwnedIn scope holder) then (rows, 0)
  else
    let wanted := fun (row : PoolRow) => row.hasId scope id && row.isFree
    (rows.map fun row => if wanted row then row.setOwner owner else row, rows.countP wanted)

def allocateAttempts : Nat := 5

def allocateWithin (pool : Pool) (lock : Lock) (scope : Option String) (ranges : RangeSet)
    (owner : String) : Nat → List PoolRow → Except StoreError (Nat × List PoolRow)
  | 0, rows => do
      match ← pool.find scope owner rows with
      | some id => return (id, rows)
      | none => throw (.conflict pool.name
          s!"could not claim an id for {owner} after {allocateAttempts} attempts")
  | attempts + 1, rows => do
      match ← pool.find scope owner rows with
      | some id => return (id, rows)
      | none =>
          match ← pool.lastFree scope ranges rows with
          | none => throw (.exhaustedIn pool.name scope)
          | some id =>
              lock.claim "allocate claim"
              let (rows, taken) := pool.take scope id owner rows
              if taken = 1 then return (id, rows)
              else pool.allocateWithin lock scope ranges owner attempts rows

def allocate (pool : Pool) (lock : Lock) (scope : Option String) (ranges : RangeSet)
    (owner : String) (rows : List PoolRow) : Except StoreError (Nat × List PoolRow) :=
  pool.allocateWithin lock scope ranges owner allocateAttempts rows

def giveBack (pool : Pool) (scope : Option String) (ranges : RangeSet) (id : Nat)
    (rows : List PoolRow) : List PoolRow :=
  let scope := pool.scopeOf scope
  if ranges.contains id then
    rows.map fun row => if row.hasId scope id then row.setOwner "" else row
  else rows.filter fun row => !row.hasId scope id

def release (pool : Pool) (lock : Lock) (scope : Option String) (ranges : RangeSet)
    (owner : String) (rows : List PoolRow) : Except StoreError (List Nat × List PoolRow) := do
  lock.claim s!"lock {pool.table}"
  let held ← (rows.filter (·.isOwnedIn (pool.scopeOf scope) owner)).mapM (pool.word ·.id)
  return (held, held.foldl (fun rows id => pool.giveBack scope ranges id rows) rows)

/-- Gives back one identifier whoever owns it; false when there is no row for it. -/
def releaseId (pool : Pool) (lock : Lock) (scope : Option String) (ranges : RangeSet) (id : Nat)
    (rows : List PoolRow) : Except StoreError (Bool × List PoolRow) := do
  lock.claim s!"lock {pool.table}"
  if rows.any (·.hasId (pool.scopeOf scope) id) then
    return (true, pool.giveBack scope ranges id rows)
  else return (false, rows)

def reserve (pool : Pool) (lock : Lock) (scope : Option String) (id : Nat) (owner : String)
    (rows : List PoolRow) : Except StoreError (List PoolRow) := do
  lock.claim s!"lock {pool.table}"
  let scope := pool.scopeOf scope
  match rows.find? (·.hasId scope id) with
  | none =>
      if pool.isScoped && scope.isNone then throw (.database "reserve insert" false)
      else return pool.place rows [⟨scope, id, owner⟩]
  | some row =>
      if row.isFree then
        return rows.map fun row =>
          if row.hasId scope id && row.isFree then row.setOwner owner else row
      else if row.owner = owner then return rows
      else throw (.conflict pool.name s!"id {id} is already owned by {row.owner}")

end OverlayFabric.Pool
