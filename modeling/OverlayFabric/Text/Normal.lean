import OverlayFabric.Text.Composite
import OverlayFabric.Text.Mark

/-!
The normal form of text: marks in the order of their classes and everything composed that can be. It is
the form of texts whose characters each are in normal form by themselves; `compose` of such a text is
found by taking it apart, ordering the marks and composing again from the left.
-/

namespace OverlayFabric.Text

/-- A character taken apart. No composite has more than four layers. -/
def takeApart : Nat → Char → List Char
  | 0, c => [c]
  | layers + 1, c =>
      match split? c with
      | some (base, mark) => takeApart layers base ++ [mark]
      | none => [c]

def insertMark (c : Char) : List Char → List Char
  | [] => [c]
  | c' :: cs =>
      if combiningClass c' ≠ 0 ∧ combiningClass c' < combiningClass c then c' :: insertMark c cs
      else c :: c' :: cs

def orderMarks : List Char → List Char
  | [] => []
  | c :: cs => if combiningClass c = 0 then c :: orderMarks cs else insertMark c (orderMarks cs)

/-- A text composed up to here: what is settled, then a character that marks may still join, then the
marks that did not; the lists have their last character first. -/
structure Composing where
  settled : List Char := []
  base : Option Char := none
  marks : List Char := []

namespace Composing

def text (state : Composing) : List Char := state.marks ++ state.base.toList ++ state.settled

def isBlocked (state : Composing) (c : Char) : Bool :=
  match state.marks with
  | [] => false
  | last :: _ => combiningClass c ≤ combiningClass last

def add (state : Composing) (c : Char) : Composing :=
  let joined := if state.isBlocked c then none else state.base.bind fun base => join? base c
  match joined with
  | some composite => { state with base := some composite }
  | none =>
      if combiningClass c = 0 then { settled := state.text, base := some c }
      else { state with marks := c :: state.marks }

end Composing

def compose (cs : List Char) : List Char :=
  ((orderMarks (cs.flatMap (takeApart 4))).foldl Composing.add {}).text.reverse

end OverlayFabric.Text
