import OverlayFabric.Number.Radix
import OverlayFabric.Store.Lock

/-!
Pools of identifiers, each a table of rows with an owner; the empty owner marks a free row. The rows
of the two segment pools are in the order of their identifiers, those of the VLAN pool of the border
leaves, which is scoped by switch, in the order they came.
-/

namespace OverlayFabric

inductive Pool where
  | l2Segment
  | l3Segment
  | borderVlan
  deriving DecidableEq, Repr

structure PoolRow where
  scope : Option String
  id : Int
  owner : String
  deriving DecidableEq, Repr

structure OwnedRow where
  scope : Option String
  id : Nat
  owner : String
  deriving DecidableEq, Repr

structure PoolStats where
  total : Nat
  used : Nat
  free : Nat
  deriving DecidableEq, Repr

namespace PoolRow

def isFree (row : PoolRow) : Bool := row.owner == ""

def inScope (scope : Option String) (row : PoolRow) : Bool :=
  match scope with
  | none => true
  | some _ => row.scope == scope

def isOwnedIn (scope : Option String) (owner : String) (row : PoolRow) : Bool :=
  row.inScope scope && row.owner == owner

def isFreeIn (scope : Option String) (row : PoolRow) : Bool := row.inScope scope && row.isFree

def hasId (scope : Option String) (id : Nat) (row : PoolRow) : Bool :=
  row.inScope scope && row.id == id

def setOwner (owner : String) (row : PoolRow) : PoolRow := { row with owner }

end PoolRow

namespace Pool

def name : Pool → String
  | .l2Segment => "l2_segment"
  | .l3Segment => "l3_segment"
  | .borderVlan => "border_vlan"

def table : Pool → String
  | .l2Segment => "l2_segment_allocations"
  | .l3Segment => "l3_segment_allocations"
  | .borderVlan => "border_vlan_allocations"

def isScoped : Pool → Bool
  | .borderVlan => true
  | _ => false

/-- The scope that counts: segment pools have none, and none in a scoped pool means every one. -/
def scopeOf (pool : Pool) (scope : Option String) : Option String :=
  if pool.isScoped then scope else none

def word? (id : Int) : Option Nat :=
  if 0 ≤ id ∧ id ≤ Number.wordLimit then some id.toNat else none

def word (pool : Pool) (id : Int) : Except StoreError Nat :=
  match word? id with
  | some id => .ok id
  | none => .error (.corrupt pool.table s!"id {id} does not fit u32")

def place (pool : Pool) (rows fresh : List PoolRow) : List PoolRow :=
  if pool.isScoped then rows ++ fresh else List.merge rows fresh fun a b => a.id ≤ b.id

def find (pool : Pool) (scope : Option String) (owner : String) (rows : List PoolRow) :
    Except StoreError (Option Nat) :=
  match rows.find? (·.isOwnedIn (pool.scopeOf scope) owner) with
  | some row => (pool.word row.id).map some
  | none => .ok none

def owned (pool : Pool) (rows : List PoolRow) : Except StoreError (List OwnedRow) :=
  (rows.filter (!·.isFree)).mapM fun row =>
    (pool.word row.id).map fun id => ⟨row.scope, id, row.owner⟩

def scopes (pool : Pool) (rows : List PoolRow) : List String :=
  if pool.isScoped then
    ((rows.filterMap (·.scope)).mergeSort (· ≤ ·)).eraseReps
  else []

def stats (pool : Pool) (scope : Option String) (rows : List PoolRow) : PoolStats :=
  let here := rows.filter (·.inScope (pool.scopeOf scope))
  let used := here.countP (!·.isFree)
  ⟨here.length, used, here.length - used⟩

end Pool
end OverlayFabric
