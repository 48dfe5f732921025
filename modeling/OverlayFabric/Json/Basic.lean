import OverlayFabric.Keyed
import OverlayFabric.Number.Double

/-!
JSON values. An object holds each name once, in ascending order; whole numbers of sixty-four bits are
kept apart from all other numbers, which are doubles given by their fewest digits.
-/

namespace OverlayFabric
open Number

inductive Json where
  | null
  | bool (value : Bool)
  | int (value : Int)
  | real (negative : Bool) (value : Scientific)
  | str (value : String)
  | arr (items : List Json)
  | obj (fields : List (String × Json))
  deriving Repr, BEq

instance : Inhabited Json := ⟨.null⟩

namespace Json

/-- Of fields with one name the last counts. -/
def object (fields : List (String × Json)) : Json :=
  .obj (fields.foldl (fun map (name, value) => insertKey name value map) [])

def nat (n : Nat) : Json := .int n

def option {α : Type} (encode : α → Json) : Option α → Json
  | some value => encode value
  | none => .null

def keyed {α : Type} (encode : α → Json) (map : Keyed α) : Json :=
  .obj (map.pairs.map fun (name, value) => (name, encode value))

def field? (name : String) : Json → Option Json
  | .obj fields => findKey? name fields
  | _ => none

end Json
end OverlayFabric
