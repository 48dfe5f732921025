import OverlayFabric.Json.Basic

/-!
Tables of a TOML document while it is read. A table is defined once: by a header of its own, or
through dotted keys; one that was only passed through on the way to another may still get its header.
-/

namespace OverlayFabric.Toml

inductive Origin where
  | header
  | passed
  | dotted
  deriving DecidableEq, Repr

inductive Node where
  | value (json : Json)
  | table (origin : Origin) (entries : List (String × Node))
  | tables (items : List Node)

instance : Inhabited Node := ⟨.table .header []⟩

namespace Node

mutual

def toJson : Node → Json
  | .value json => json
  | .table _ entries => .object (fieldsOf entries)
  | .tables items => .arr (listOf items).reverse

def fieldsOf : List (String × Node) → List (String × Json)
  | [] => []
  | (name, node) :: rest => (name, node.toJson) :: fieldsOf rest

def listOf : List Node → List Json
  | [] => []
  | node :: rest => node.toJson :: listOf rest

end

/-- Changes the table at the end of a path, which a key or a header takes; missing tables on the way
are made. A dotted key may not enter a table that has a header. -/
def changeAt (way : Origin) (f : Node → Option Node) : List String → Node → Option Node
  | [], node => f node
  | name :: path, .table origin entries =>
      let put := fun node => Node.table origin (insertKey name node entries)
      match findKey? name entries with
      | none => (changeAt way f path (.table way [])).map put
      | some (.value _) => none
      | some (.tables []) => none
      | some (.tables (last :: earlier)) =>
          (changeAt way f path last).map fun last => put (.tables (last :: earlier))
      | some (.table inner rest) =>
          if way = .dotted ∧ inner = .header then none
          else (changeAt way f path (.table inner rest)).map put
  | _ :: _, _ => none

/-- Puts a value under a name of its own; `dotted` tells that a dotted key led to the table. -/
def putValue (dotted : Bool) (name : String) (json : Json) : Node → Option Node
  | .table origin entries =>
      if (origin == .dotted) != dotted then none
      else if (findKey? name entries).isSome then none
      else some (.table origin (insertKey name (.value json) entries))
  | _ => none

def set (path : List String) (name : String) (json : Json) (node : Node) : Option Node :=
  node.changeAt .dotted (putValue (!path.isEmpty) name json) path

def putTable (name : String) : Node → Option Node
  | .table origin entries =>
      match findKey? name entries with
      | none => some (.table origin (insertKey name (.table .header []) entries))
      | some (.table .passed inner) =>
          some (.table origin (insertKey name (.table .header inner) entries))
      | some _ => none
  | _ => none

def define (path : List String) (name : String) (node : Node) : Option Node :=
  node.changeAt .passed (putTable name) path

def addTable (name : String) : Node → Option Node
  | .table origin entries =>
      match findKey? name entries with
      | none => some (.table origin (insertKey name (.tables [.table .header []]) entries))
      | some (.tables items) =>
          some (.table origin (insertKey name (.tables (.table .header [] :: items)) entries))
      | some _ => none
  | _ => none

def append (path : List String) (name : String) (node : Node) : Option Node :=
  node.changeAt .passed (addTable name) path

end Node
end OverlayFabric.Toml
