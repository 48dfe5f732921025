import OverlayFabric.Json.Basic
import OverlayFabric.Number.Radix
import OverlayFabric.Text.Blank

namespace OverlayFabric.Toml
open Number Text

def groupedDigits? (radix : Nat) (cs : List Char) : Option (List Char) :=
  let groups := pieces '_' cs
  if groups.all fun group => !group.isEmpty && group.all (isDigitOf radix) then some groups.flatten
  else none

def isPadded : List Char → Bool
  | '0' :: _ :: _ => true
  | _ => false

def decimalDigits? (cs : List Char) : Option (List Char) :=
  (groupedDigits? 10 cs).filter (!isPadded ·)

def splitSign : List Char → Bool × List Char
  | '+' :: rest => (false, rest)
  | '-' :: rest => (true, rest)
  | cs => (false, cs)

def signed (negative : Bool) (value : Nat) : Int :=
  if negative then -Int.ofNat value else Int.ofNat value

def integer? (cs : List Char) : Option Int :=
  let inRadix := fun radix digits =>
    ((groupedDigits? radix digits).bind (valueOf radix)).map Int.ofNat
  match cs with
  | '0' :: 'x' :: digits => inRadix 16 digits
  | '0' :: 'o' :: digits => inRadix 8 digits
  | '0' :: 'b' :: digits => inRadix 2 digits
  | _ =>
      let (negative, digits) := splitSign cs
      ((decimalDigits? digits).bind (valueOf 10)).map (signed negative)

def exponent? (cs : List Char) : Option Int :=
  let (negative, digits) := splitSign cs
  ((groupedDigits? 10 digits).bind (valueOf 10)).map (signed negative)

def mantissa? (cs : List Char) : Option (Nat × Nat) := do
  let (whole, fraction) ← cut? '.' cs
  let whole ← decimalDigits? whole
  let fraction ← groupedDigits? 10 fraction
  return (← valueOf 10 (whole ++ fraction), fraction.length)

def scientific? (cs : List Char) : Option Scientific :=
  let mantissa := cs.takeWhile fun c => c != 'e' && c != 'E'
  match cs.drop mantissa.length with
  | [] => (mantissa? mantissa).map fun (digits, places) => ⟨digits, -(places : Int)⟩
  | _ :: exponent => do
      let (digits, places) ← mantissa? mantissa <|>
        ((decimalDigits? mantissa).bind (valueOf 10)).map (·, 0)
      return ⟨digits, (← exponent? exponent) - places⟩

/-- A number that is not whole. An infinite one and what is no number are kept as zero, since no value
of theirs is ever asked for. -/
def real? (cs : List Char) : Option Json :=
  let (negative, body) := splitSign cs
  if body == "inf".toList || body == "nan".toList then some (.real negative ⟨0, 0⟩)
  else (scientific? body).map (.real negative)

def readPart (width low high : Nat) (cs : List Char) : Option (Nat × List Char) :=
  let digits := cs.take width
  if digits.length < width then none
  else ((valueOf 10 digits).filter fun value => low ≤ value && value ≤ high).map fun value =>
    (value, cs.drop width)

def expect (c : Char) : List Char → Option (List Char)
  | [] => none
  | c' :: cs => if c' = c then some cs else none

def isLeap (year : Nat) : Bool := year % 4 == 0 && (year % 100 != 0 || year % 400 == 0)

def daysIn (year month : Nat) : Nat :=
  if month == 2 then (if isLeap year then 29 else 28)
  else if [4, 6, 9, 11].contains month then 30
  else 31

def skipDate (cs : List Char) : Option (List Char) := do
  let (year, cs) ← readPart 4 0 9999 cs
  let (month, cs) ← readPart 2 1 12 (← expect '-' cs)
  let (_, cs) ← readPart 2 1 (daysIn year month) (← expect '-' cs)
  return cs

def skipSeconds (cs : List Char) : Option (List Char) :=
  match cs with
  | ':' :: rest => do
      let (_, rest) ← readPart 2 0 60 rest
      match rest with
      | '.' :: rest =>
          let digits := rest.takeWhile (isDigitOf 10)
          if digits.isEmpty then none else some (rest.drop digits.length)
      | _ => some rest
  | _ => some cs

def skipTime (cs : List Char) : Option (List Char) := do
  let (_, cs) ← readPart 2 0 23 cs
  let (_, cs) ← readPart 2 0 59 (← expect ':' cs)
  skipSeconds cs

def isOffset : List Char → Bool
  | [] => true
  | [c] => c == 'Z' || c == 'z'
  | c :: rest =>
      let body := do
        let (_, cs) ← readPart 2 0 23 rest
        let (_, cs) ← readPart 2 0 59 (← expect ':' cs)
        return cs
      (c == '+' || c == '-') && body == some []

def isDateTime (cs : List Char) : Bool :=
  match skipDate cs with
  | some [] => true
  | some (c :: rest) =>
      (c == 'T' || c == 't' || c == ' ') && ((skipTime rest).map isOffset).getD false
  | none => skipTime cs == some []

def scalar? (cs : List Char) : Option Json :=
  if cs == "true".toList then some (.bool true)
  else if cs == "false".toList then some (.bool false)
  else match integer? cs with
    | some value => some (.int value)
    | none =>
        match real? cs with
        | some value => some value
        | none =>
            if isDateTime cs then some (.obj [("datetime", .str (String.ofList cs))]) else none

def endsScalar (c : Char) : Bool :=
  c.toNat ≤ 32 || c == ',' || c == ']' || c == '}' || c == '#' || c == '=' || c == '"' ||
    c.toNat == 39 || c == '[' || c == '{'

/-- The text of the value that begins here; a date and a time may have a space between them. -/
def scalarText (cs : List Char) : List Char :=
  let text := cs.takeWhile (!endsScalar ·)
  match cs.drop text.length with
  | ' ' :: c :: rest =>
      if skipDate text == some [] && isDigitOf 10 c then
        text ++ ' ' :: (c :: rest).takeWhile (!endsScalar ·)
      else text
  | _ => text

end OverlayFabric.Toml
