import OverlayFabric.Json.Record
import OverlayFabric.Malformed

namespace OverlayFabric

inductive InputFault where
  | malformed (fault : Malformed)
  | undecodable (field : String)
  | unknown (word : String)
  deriving DecidableEq, Repr

namespace Json

def asText : Json → String
  | .str text => text
  | _ => ""

def asNat : Json → Nat
  | .int value => value.toNat
  | _ => 0

def items : Json → List Json
  | .arr items => items
  | _ => []

def text? (json : Json) (name : String) : Option String :=
  match json.field? name with
  | some (.str text) => some text
  | _ => none

def int? (json : Json) (name : String) : Option Int :=
  match json.field? name with
  | some (.int value) => some value
  | _ => none

def textAt (json : Json) (name : String) : String := (json.text? name).getD ""

def intAt (json : Json) (name : String) : Int := (json.int? name).getD 0

def nat? (json : Json) (name : String) : Option Nat := (json.int? name).map Int.toNat

def natAt (json : Json) (name : String) : Nat := (json.nat? name).getD 0

def boolAt (json : Json) (name : String) : Bool := json.field? name == some (.bool true)

def listAt (json : Json) (name : String) : List Json := ((json.field? name).map items).getD []

def textsAt (json : Json) (name : String) : List String := (json.listAt name).map asText

def given? (json : Json) (name : String) : Option Json :=
  (json.field? name).filter (· != .null)

def check {α : Type} (result : Except Malformed α) : Except InputFault α :=
  result.mapError .malformed

def require {α : Type} (decode : Decode α) (json : Json) (name : String) : Except InputFault α :=
  match (json.field? name).bind decode with
  | some value => .ok value
  | none => .error (.undecodable name)

def optional {α : Type} (decode : Decode α) (json : Json) (name : String) :
    Except InputFault (Option α) :=
  match json.given? name with
  | none => .ok none
  | some _ => (require decode json name).map some

end Json
end OverlayFabric
