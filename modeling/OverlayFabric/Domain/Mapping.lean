import OverlayFabric.Domain.MappingText
import OverlayFabric.Text.CharTable

namespace OverlayFabric.Domain
open Number Text

inductive Target where
  /-- The first character of the run has this target, and those after it the ones that follow. -/
  | each (first : Nat)
  /-- As before, but only every second character has one. -/
  | everySecond (first : Nat)
  | shared (text : List Char)
  deriving DecidableEq, Repr

def Target.at? (target : Target) (offset : Nat) : Option (List Char) :=
  match target with
  | .each first => some [.ofNat (first + offset)]
  | .everySecond first => if offset % 2 = 0 then some [.ofNat (first + offset)] else none
  | .shared text => some text

def readRunWith? (word target : List Char) (read : List Char → Option Target) :
    Option (Run Target) := do
  let (first, last) ← readRun? word
  return ⟨first, last, ← read target⟩

def readMapped? (word : List Char) : Option (Run Target) :=
  match cut? '=' word, cut? '/' word, cut? ':' word with
  | some (run, target), _, _ => readRunWith? run target fun cs => (valueOf 16 cs).map .each
  | none, some (run, target), _ =>
      readRunWith? run target fun cs => (valueOf 16 cs).map .everySecond
  | none, none, some (run, target) =>
      readRunWith? run target fun cs =>
        ((pieces '+' cs).mapM (valueOf 16)).map fun codes => .shared (codes.map Char.ofNat)
  | none, none, none => none

def mapped : CharTable Target := ⟨((words mappedText).filterMap readMapped?).toArray⟩

def ignored : CharTable Unit := .ofText ignoredText

def allowed : CharTable Unit := .ofText allowedText

def target? (c : Char) : Option (List Char) :=
  (mapped.find? c).bind fun run => run.value.at? (c.toNat - run.first)

def mapChar? (c : Char) : Option (List Char) :=
  if c.toNat < 128 then some [c.toLower]
  else match target? c with
    | some text => some text
    | none =>
        if ignored.contains c then some []
        else if allowed.contains c then some [c]
        else none

def map? (cs : List Char) : Option (List Char) := (cs.mapM mapChar?).map List.flatten

end OverlayFabric.Domain
