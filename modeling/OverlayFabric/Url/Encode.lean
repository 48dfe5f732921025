import OverlayFabric.Number.Radix

namespace OverlayFabric.Url
open Number

def upperDigit (n : Nat) : Char := if n < 10 then Char.ofNat (48 + n) else Char.ofNat (55 + n)

def percent (byte : UInt8) : List Char :=
  ['%', upperDigit (byte.toNat / 16), upperDigit (byte.toNat % 16)]

def encodeChar (keep : Char → Bool) (c : Char) : List Char :=
  if keep c then [c] else (String.utf8EncodeChar c).flatMap percent

def encodeWith (keep : Char → Bool) (cs : List Char) : List Char := cs.flatMap (encodeChar keep)

def isPrintable (c : Char) : Bool := 32 ≤ c.toNat && c.toNat < 127

def keepsInFragment (c : Char) : Bool :=
  isPrintable c && c.toNat != 96 && !" \"<>".toList.contains c

def keepsInPath (c : Char) : Bool := keepsInFragment c && ! (['#', '?', '{', '}'].contains c)

def keepsInUser (c : Char) : Bool := keepsInPath c && !"/:;=@[\\]^|".toList.contains c

def keepsInQuery (c : Char) : Bool := isPrintable c && !" \"#<>".toList.contains c

def keepsInWebQuery (c : Char) : Bool := keepsInQuery c && c.toNat != 39

def keepsInForm (c : Char) : Bool := c.isAlphanum || "*-._".toList.contains c

def encodeForm (cs : List Char) : List Char :=
  cs.flatMap fun c => if c = ' ' then ['+'] else encodeChar keepsInForm c

/-- The bytes that a text stands for; a percent sign without two digits is itself. -/
def percentDecode : List Char → List UInt8
  | [] => []
  | '%' :: high :: low :: cs =>
      match valueOf 16 [high, low] with
      | some value => value.toUInt8 :: percentDecode cs
      | none => '%'.toNat.toUInt8 :: percentDecode (high :: low :: cs)
  | c :: cs => String.utf8EncodeChar c ++ percentDecode cs

def decodeText? (cs : List Char) : Option (List Char) :=
  (String.fromUTF8? ⟨(percentDecode cs).toArray⟩).map String.toList

end OverlayFabric.Url
