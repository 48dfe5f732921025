import OverlayFabric.Json.Basic

namespace OverlayFabric.Json
open Number

def escape (c : Char) : List Char :=
  if c = '"' then ['\\', '"']
  else if c = '\\' then ['\\', '\\']
  else if c = '\n' then ['\\', 'n']
  else if c = '\r' then ['\\', 'r']
  else if c = '\t' then ['\\', 't']
  else if c.toNat = 8 then ['\\', 'b']
  else if c.toNat = 12 then ['\\', 'f']
  else if c.toNat < 32 then
    ['\\', 'u', '0', '0', digitChar (c.toNat / 16), digitChar (c.toNat % 16)]
  else [c]

def quote (text : String) : List Char := '"' :: text.toList.flatMap escape ++ ['"']

def intText (n : Int) : List Char :=
  if n < 0 then '-' :: decimal n.natAbs else decimal n.natAbs

def realText (value : Scientific) : List Char :=
  let digits := decimal value.digits
  let count : Int := digits.length
  let point := count + value.exponent
  if value.digits = 0 then "0.0".toList
  else if 0 ≤ value.exponent ∧ point ≤ 16 then
    digits ++ List.replicate value.exponent.toNat '0' ++ ['.', '0']
  else if 0 < point ∧ point ≤ 16 then
    digits.take point.toNat ++ '.' :: digits.drop point.toNat
  else if -5 < point ∧ point ≤ 0 then
    '0' :: '.' :: List.replicate (-point).toNat '0' ++ digits
  else
    let mantissa := match digits with
      | [digit] => [digit]
      | digit :: rest => digit :: '.' :: rest
      | [] => []
    mantissa ++ 'e' :: intText (point - 1)

mutual

def print : Json → List Char
  | .null => "null".toList
  | .bool true => "true".toList
  | .bool false => "false".toList
  | .int value => intText value
  | .real negative value => (if negative then ['-'] else []) ++ realText value
  | .str value => quote value
  | .arr items => '[' :: printItems items ++ [']']
  | .obj fields => '{' :: printFields fields ++ ['}']

def printItems : List Json → List Char
  | [] => []
  | [item] => print item
  | item :: rest => print item ++ ',' :: printItems rest

def printFields : List (String × Json) → List Char
  | [] => []
  | [(name, value)] => quote name ++ ':' :: print value
  | (name, value) :: rest => quote name ++ ':' :: print value ++ ',' :: printFields rest

end

def text (json : Json) : String := String.ofList json.print

def newLine (depth : Nat) : List Char := '\n' :: List.replicate (2 * depth) ' '

mutual

def spread (depth : Nat) : Json → List Char
  | .arr (item :: items) =>
      '[' :: newLine (depth + 1) ++ spreadItems (depth + 1) (item :: items) ++ newLine depth ++ [']']
  | .obj (field :: fields) =>
      '{' :: newLine (depth + 1) ++ spreadFields (depth + 1) (field :: fields) ++ newLine depth ++
        ['}']
  | json => print json

def spreadItems (depth : Nat) : List Json → List Char
  | [] => []
  | [item] => spread depth item
  | item :: rest => spread depth item ++ ',' :: newLine depth ++ spreadItems depth rest

def spreadFields (depth : Nat) : List (String × Json) → List Char
  | [] => []
  | [(name, value)] => quote name ++ ':' :: ' ' :: spread depth value
  | (name, value) :: rest =>
      quote name ++ ':' :: ' ' :: spread depth value ++ ',' :: newLine depth ++
        spreadFields depth rest

end

def pretty (json : Json) : String := String.ofList (json.spread 0)

end OverlayFabric.Json
