import OverlayFabric.Toml.Quoted
import OverlayFabric.Toml.Scalar
import OverlayFabric.Toml.Table

namespace OverlayFabric.Toml

def depthLimit : Nat := 80

def readScalar (cs : List Char) : Option (Json × List Char) :=
  let text := scalarText cs
  (scalar? text).map fun json => (json, cs.drop text.length)

mutual

def readValue : Nat → Nat → List Char → Option (Json × List Char)
  | 0, _, _ => none
  | fuel + 1, depth, cs =>
      match readString? cs with
      | some result => result.map fun (text, rest) => (.str text, rest)
      | none =>
          match cs, depth with
          | '[' :: rest, depth + 1 =>
              (readItems fuel depth [] rest).map fun (items, rest) => (.arr items, rest)
          | '{' :: rest, depth + 1 =>
              (readFields fuel depth (.table .header []) rest).map fun (node, rest) =>
                (node.toJson, rest)
          | _, _ => readScalar cs

def readItems : Nat → Nat → List Json → List Char → Option (List Json × List Char)
  | 0, _, _, _ => none
  | fuel + 1, depth, seen, cs =>
      match skipLines cs with
      | ']' :: rest => some (seen.reverse, rest)
      | cs =>
          match readValue fuel depth cs with
          | none => none
          | some (item, rest) =>
              match skipLines rest with
              | ',' :: rest => readItems fuel depth (item :: seen) rest
              | ']' :: rest => some ((item :: seen).reverse, rest)
              | _ => none

def readFields : Nat → Nat → Node → List Char → Option (Node × List Char)
  | 0, _, _, _ => none
  | fuel + 1, depth, node, cs =>
      match skipLines cs with
      | '}' :: rest => some (node, rest)
      | cs =>
          match readEntry fuel depth node cs with
          | none => none
          | some (node, rest) =>
              match skipLines rest with
              | ',' :: rest => readFields fuel depth node rest
              | '}' :: rest => some (node, rest)
              | _ => none

def readEntry : Nat → Nat → Node → List Char → Option (Node × List Char)
  | 0, _, _, _ => none
  | fuel + 1, depth, node, cs =>
      match readKey cs with
      | some (path, name, rest) =>
          match skipLines rest with
          | '=' :: rest =>
              match readValue fuel depth (skipLines rest) with
              | some (json, rest) => (node.set path name json).map fun node => (node, rest)
              | none => none
          | _ => none
      | none => none

end

/-- A document so far: its tables, and the path of the one that keys go to now. -/
structure Document where
  root : Node
  current : List String

namespace Document

def empty : Document := ⟨.table .header [], []⟩

def header (document : Document) (cs : List Char) : Option (Document × List Char) :=
  match readKey cs with
  | some (path, name, ']' :: rest) =>
      (document.root.define path name).map fun root => (⟨root, path ++ [name]⟩, rest)
  | _ => none

def arrayHeader (document : Document) (cs : List Char) : Option (Document × List Char) :=
  match readKey cs with
  | some (path, name, ']' :: ']' :: rest) =>
      (document.root.append path name).map fun root => (⟨root, path ++ [name]⟩, rest)
  | _ => none

def keyValue (document : Document) (cs : List Char) : Option (Document × List Char) :=
  match readKey cs with
  | some (path, name, '=' :: rest) =>
      match readValue (4 * cs.length + 4) depthLimit (skipSpace rest) with
      | some (json, rest) =>
          (document.root.changeAt .passed (·.set path name json) document.current).map fun root =>
            (⟨root, document.current⟩, rest)
      | none => none
  | _ => none

def expression (document : Document) (cs : List Char) : Option (Document × List Char) :=
  match cs with
  | '[' :: '[' :: rest => document.arrayHeader rest
  | '[' :: rest => document.header rest
  | _ => document.keyValue cs

def readFrom : Nat → Document → List Char → Option Document
  | 0, _, _ => none
  | fuel + 1, document, cs =>
      match skipLines cs with
      | [] => some document
      | cs =>
          match document.expression cs with
          | none => none
          | some (document, rest) =>
              match endLine? rest with
              | some rest => readFrom fuel document rest
              | none => none

end Document

def dropByteOrderMark : List Char → List Char
  | c :: cs => if c.toNat = 0xFEFF then cs else c :: cs
  | [] => []

def read? (cs : List Char) : Option Json :=
  let cs := dropByteOrderMark cs
  (Document.empty.readFrom (cs.length + 1) cs).map (·.root.toJson)

def ofText? (text : String) : Option Json := read? text.toList

end OverlayFabric.Toml
