import OverlayFabric.Json.Basic

namespace OverlayFabric.Json
open Number

def depthLimit : Nat := 127

def isSpace (c : Char) : Bool := c = ' ' || c = '\t' || c = '\n' || c = '\r'

def skipSpace (cs : List Char) : List Char := cs.dropWhile isSpace

def expectAll : List Char → List Char → Option (List Char)
  | [], cs => some cs
  | c :: expected, c' :: cs => if c = c' then expectAll expected cs else none
  | _ :: _, [] => none

def readHex4 (cs : List Char) : Option (Nat × List Char) :=
  let digits := cs.take 4
  if digits.length < 4 then none
  else (valueOf 16 digits).map fun value => (value, cs.drop 4)

def readEscapedUnit (cs : List Char) : Option (Char × List Char) := do
  let (unit, cs) ← readHex4 cs
  if 0xDC00 ≤ unit ∧ unit ≤ 0xDFFF then none
  else if 0xD800 ≤ unit ∧ unit ≤ 0xDBFF then
    let cs ← expectAll ['\\', 'u'] cs
    let (low, cs) ← readHex4 cs
    if 0xDC00 ≤ low ∧ low ≤ 0xDFFF then
      some (Char.ofNat (0x10000 + (unit - 0xD800) * 0x400 + (low - 0xDC00)), cs)
    else none
  else some (Char.ofNat unit, cs)

def plainEscape? (c : Char) : Option Char :=
  match c with
  | '"' => some '"'
  | '\\' => some '\\'
  | '/' => some '/'
  | 'b' => some (Char.ofNat 8)
  | 'f' => some (Char.ofNat 12)
  | 'n' => some '\n'
  | 'r' => some '\r'
  | 't' => some '\t'
  | _ => none

/-- The rest of a string after its opening quote; `seen` holds what was read, last first. -/
def readStringFrom : Nat → List Char → List Char → Option (String × List Char)
  | 0, _, _ => none
  | _ + 1, _, [] => none
  | fuel + 1, seen, c :: cs =>
      if c = '"' then some (String.ofList seen.reverse, cs)
      else if c = '\\' then
        match cs with
        | 'u' :: cs =>
            match readEscapedUnit cs with
            | some (c, cs) => readStringFrom fuel (c :: seen) cs
            | none => none
        | e :: cs =>
            match plainEscape? e with
            | some c => readStringFrom fuel (c :: seen) cs
            | none => none
        | [] => none
      else if c.toNat < 32 then none
      else readStringFrom fuel (c :: seen) cs

def readString (cs : List Char) : Option (String × List Char) := readStringFrom (cs.length + 1) [] cs

def isDigit (c : Char) : Bool := isDigitOf 10 c

def readFraction (cs : List Char) : Option (List Char × List Char) :=
  match cs with
  | '.' :: rest =>
      let digits := rest.takeWhile isDigit
      if digits.isEmpty then none else some (digits, rest.dropWhile isDigit)
  | _ => some ([], cs)

def readExponent (cs : List Char) : Option (Option Int × List Char) :=
  match cs with
  | e :: rest =>
      if e = 'e' ∨ e = 'E' then
        let (negative, rest) := match rest with
          | '+' :: rest => (false, rest)
          | '-' :: rest => (true, rest)
          | _ => (false, rest)
        let digits := rest.takeWhile isDigit
        (valueOf 10 digits).map fun value =>
          (some (if negative then -(value : Int) else value), rest.dropWhile isDigit)
      else some (none, cs)
  | [] => some (none, cs)

def ofScientific? (negative : Bool) (value : Scientific) : Option Json :=
  (Double.nearest? value).map fun double => .real negative double.shortest

def ofWhole? (negative : Bool) (value : Nat) : Option Json :=
  if negative then
    if value = 0 ∨ Nat.pow 2 63 < value then ofScientific? true ⟨value, 0⟩
    else some (.int (-(value : Int)))
  else if Nat.pow 2 64 ≤ value then ofScientific? false ⟨value, 0⟩
  else some (.int value)

structure Numeral where
  negative : Bool
  whole : List Char
  fraction : List Char
  exponent : Option Int

def readNumeral (cs : List Char) : Option (Numeral × List Char) := do
  let (negative, cs) := match cs with
    | '-' :: rest => (true, rest)
    | _ => (false, cs)
  let whole := cs.takeWhile isDigit
  if whole.isEmpty ∨ (whole.head? = some '0' ∧ 1 < whole.length) then none
  let (fraction, rest) ← readFraction (cs.dropWhile isDigit)
  let (exponent, rest) ← readExponent rest
  return (⟨negative, whole, fraction, exponent⟩, rest)

def Numeral.value? (numeral : Numeral) : Option Json := do
  let value ← valueOf 10 (numeral.whole ++ numeral.fraction)
  if numeral.fraction.isEmpty ∧ numeral.exponent.isNone then ofWhole? numeral.negative value
  else ofScientific? numeral.negative ⟨value, numeral.exponent.getD 0 - numeral.fraction.length⟩

def readNumber (cs : List Char) : Option (Json × List Char) := do
  let (numeral, rest) ← readNumeral cs
  return (← numeral.value?, rest)

mutual

def readValue : Nat → Nat → List Char → Option (Json × List Char)
  | 0, _, _ => none
  | fuel + 1, depth, cs =>
      match skipSpace cs with
      | [] => none
      | c :: rest =>
          if c = '"' then (readString rest).map fun (value, rest) => (.str value, rest)
          else if c = '[' then
            match depth with
            | 0 => none
            | depth + 1 =>
                match skipSpace rest with
                | ']' :: rest => some (.arr [], rest)
                | rest => (readItems fuel depth [] rest).map fun (items, rest) => (.arr items, rest)
          else if c = '{' then
            match depth with
            | 0 => none
            | depth + 1 =>
                match skipSpace rest with
                | '}' :: rest => some (.obj [], rest)
                | rest =>
                    (readFields fuel depth [] rest).map fun (fields, rest) => (.obj fields, rest)
          else if c = 't' then (expectAll "rue".toList rest).map fun rest => (.bool true, rest)
          else if c = 'f' then (expectAll "alse".toList rest).map fun rest => (.bool false, rest)
          else if c = 'n' then (expectAll "ull".toList rest).map fun rest => (.null, rest)
          else readNumber (c :: rest)

def readItems : Nat → Nat → List Json → List Char → Option (List Json × List Char)
  | 0, _, _, _ => none
  | fuel + 1, depth, seen, cs =>
      match readValue fuel depth cs with
      | none => none
      | some (item, rest) =>
          match skipSpace rest with
          | ',' :: rest => readItems fuel depth (item :: seen) rest
          | ']' :: rest => some ((item :: seen).reverse, rest)
          | _ => none

def readFields : Nat → Nat → List (String × Json) → List Char →
    Option (List (String × Json) × List Char)
  | 0, _, _, _ => none
  | fuel + 1, depth, seen, cs =>
      match skipSpace cs with
      | '"' :: rest =>
          match readString rest with
          | none => none
          | some (name, rest) =>
              match skipSpace rest with
              | ':' :: rest =>
                  match readValue fuel depth rest with
                  | none => none
                  | some (value, rest) =>
                      match skipSpace rest with
                      | ',' :: rest => readFields fuel depth (insertKey name value seen) rest
                      | '}' :: rest => some (insertKey name value seen, rest)
                      | _ => none
              | _ => none
      | _ => none

end

def read? (cs : List Char) : Option Json :=
  match readValue (2 * cs.length + 2) depthLimit cs with
  | some (json, rest) => if (skipSpace rest).isEmpty then some json else none
  | none => none

def ofText? (text : String) : Option Json := read? text.toList

end OverlayFabric.Json
