import OverlayFabric.Number.Radix
import OverlayFabric.Text.Blank

/-!
Properties of characters, given by runs of code points. A table is written as text: for each run its
first and last code point in hexadecimal, with a hyphen between them, or the only one. `find?` looks a
character up by halving.
-/

namespace OverlayFabric.Text
open Number

structure Run (α : Type) where
  first : Nat
  last : Nat
  value : α

/-- Runs in ascending order that do not overlap. -/
structure CharTable (α : Type) where
  runs : Array (Run α)

def words (text : String) : List (List Char) :=
  (pieces ' ' (text.toList.map fun c => if c = '\n' then ' ' else c)).filter (!·.isEmpty)

def readRun? (word : List Char) : Option (Nat × Nat) :=
  match cut? '-' word with
  | some (first, last) => (valueOf 16 first).bind fun first => (valueOf 16 last).map (first, ·)
  | none => (valueOf 16 word).map fun code => (code, code)

namespace CharTable

variable {α : Type}

/-- The number of runs among those from `low` to `high` that begin at or before a code point, counting
also those before `low`. -/
def countUpTo (runs : Array (Run α)) (code low high : Nat) : Nat :=
  if low < high then
    let middle := low + (high - low) / 2
    match runs[middle]? with
    | some run =>
        if run.first ≤ code then countUpTo runs code (middle + 1) high
        else countUpTo runs code low middle
    | none => low
  else low
termination_by high - low

def find? (table : CharTable α) (c : Char) : Option (Run α) :=
  let count := countUpTo table.runs c.toNat 0 table.runs.size
  if count = 0 then none
  else table.runs[count - 1]?.filter fun run => c.toNat ≤ run.last

def contains (table : CharTable α) (c : Char) : Bool := (table.find? c).isSome

def readRuns (value : α) (text : String) : List (Run α) :=
  (words text).filterMap fun word => (readRun? word).map fun (first, last) => ⟨first, last, value⟩

def ofTexts (texts : List (α × String)) : CharTable α :=
  let runs := texts.flatMap fun (value, text) => readRuns value text
  ⟨(runs.mergeSort fun run other => run.first ≤ other.first).toArray⟩

def ofText (text : String) : CharTable Unit := ⟨(readRuns () text).toArray⟩

end CharTable
end OverlayFabric.Text
