import OverlayFabric.Json.Basic
import OverlayFabric.Number.Radix

/-!
Records in JSON and formats like it: an object with named fields, of which unknown ones are ignored, or
an array of the fields in their order. An optional field may be absent or null in an object; a field
with a default may be absent in both.
-/

namespace OverlayFabric

abbrev Decode (α : Type) := Json → Option α

namespace Decode

def string : Decode String
  | .str value => some value
  | _ => none

def bool : Decode Bool
  | .bool value => some value
  | _ => none

def natUpTo (limit : Nat) : Decode Nat
  | .int value => if 0 ≤ value ∧ value ≤ limit then some value.toNat else none
  | _ => none

def word : Decode Nat := natUpTo Number.wordLimit

def word32 : Decode UInt32 := fun json => (word json).map UInt32.ofNat

def longWord : Decode Nat := natUpTo 18446744073709551615

def nullable {α : Type} (decode : Decode α) : Decode (Option α)
  | .null => some none
  | json => (decode json).map some

def list {α : Type} (decode : Decode α) : Decode (List α)
  | .arr items => items.mapM decode
  | _ => none

def keyed {α : Type} (decode : Decode α) : Decode (Keyed α)
  | .obj fields =>
      (fields.mapM fun field => (decode field.2).map fun value => (field.1, value)).map Keyed.ofList
  | _ => none

/-- A name out of a closed list, alone or as the one field of an object, with the value null. -/
def oneOf {α : Type} (names : List (String × α)) : Decode α
  | .str name => findKey? name names
  | .obj [(name, .null)] => findKey? name names
  | _ => none

end Decode

structure RecordRules where
  /-- A record given by place may go on after its last field. -/
  allowsExcess : Bool
  /-- The values that can be read over, in fields that are not known. -/
  canSkip : Json → Bool

namespace RecordRules

def json : RecordRules := ⟨false, fun _ => true⟩

end RecordRules

structure Fields where
  byPlace : Bool
  entries : List (String × Json)

namespace Fields

def of? (names : List String) : Json → Option Fields
  | .obj fields => some ⟨false, fields⟩
  | .arr items => if items.length ≤ names.length then some ⟨true, names.zip items⟩ else none
  | _ => none

def read? (rules : RecordRules) (names : List String) : Json → Option Fields
  | .obj fields =>
      if fields.all fun field => names.contains field.1 || rules.canSkip field.2 then of? names (.obj fields)
      else none
  | .arr items => of? names (.arr (if rules.allowsExcess then items.take names.length else items))
  | json => of? names json

def get {α : Type} (fields : Fields) (name : String) (decode : Decode α) : Option α :=
  (findKey? name fields.entries).bind decode

def getOption {α : Type} (fields : Fields) (name : String) (decode : Decode α) : Option (Option α) :=
  match findKey? name fields.entries with
  | some json => Decode.nullable decode json
  | none => if fields.byPlace then none else some none

def getD {α : Type} (fields : Fields) (name : String) (decode : Decode α) (default : α) :
    Option α :=
  match findKey? name fields.entries with
  | some json => decode json
  | none => some default

end Fields
end OverlayFabric
