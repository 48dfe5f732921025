import OverlayFabric.Range.Basic
import OverlayFabric.Text.Blank

namespace OverlayFabric
open Number Text

structure PoolBounds where
  name : String
  min : Nat
  max : Nat
  deriving DecidableEq, Repr

namespace PoolBounds

/-- Layer-2 segments start above the VLAN space. -/
def l2Segment : PoolBounds := ⟨"l2_segment", 4096, 16777215⟩

def l3Segment : PoolBounds := ⟨"l3_segment", 1, 16777215⟩

def borderVlan : PoolBounds := ⟨"border_vlan", 1, 4094⟩

end PoolBounds

def maxPoolSize : Nat := 1000000

def rangeEntries (lines : List (List Char)) : List (List Char) :=
  ((lines.flatMap (pieces ',')).map trim).filter (!·.isEmpty)

def readBound (entry side : List Char) : Except Malformed Nat :=
  match readDecimal wordLimit (trim side) with
  | some id => .ok id
  | none => .error (.range (String.ofList entry) s!"'{String.ofList (trim side)}' is not an integer")

def readEntry (bounds : PoolBounds) (entry : List Char) : Except Malformed IdRange := do
  let some (low, high) := cut? ':' entry
    | .error (.range (String.ofList entry) "expected 'min:max'")
  let min ← readBound entry low
  let max ← readBound entry high
  if h : min ≤ max then
    if bounds.min ≤ min ∧ max ≤ bounds.max then .ok ⟨min, max, h⟩
    else .error (.range (String.ofList entry)
      s!"{bounds.name} ids must lie within {bounds.min}:{bounds.max}")
  else .error (.range (String.ofList entry) "max is smaller than min")

def readRanges (bounds : PoolBounds) (lines : List (List Char)) : Except Malformed RangeSet := do
  let ranges ← (rangeEntries lines).mapM (readEntry bounds)
  let set := RangeSet.ofRanges ranges
  if set.size ≤ maxPoolSize then .ok set
  else .error (.range (toString set)
    s!"{bounds.name} pool expands to {set.size} ids (limit {maxPoolSize})")

end OverlayFabric
