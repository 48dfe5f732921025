import OverlayFabric.Number.Radix
import OverlayFabric.Toml.Line

namespace OverlayFabric.Toml
open Number

def apostrophe : Char := Char.ofNat 39

def readCodePoint (digits : Nat) (cs : List Char) : Option (Char × List Char) :=
  let text := cs.take digits
  if text.length < digits then none
  else (valueOf 16 text).bind fun value =>
    if Nat.isValidChar value then some (Char.ofNat value, cs.drop digits) else none

def readEscape : List Char → Option (Char × List Char)
  | 'b' :: rest => some (Char.ofNat 8, rest)
  | 't' :: rest => some ('\t', rest)
  | 'n' :: rest => some ('\n', rest)
  | 'f' :: rest => some (Char.ofNat 12, rest)
  | 'r' :: rest => some ('\r', rest)
  | 'e' :: rest => some (Char.ofNat 27, rest)
  | '"' :: rest => some ('"', rest)
  | '\\' :: rest => some ('\\', rest)
  | 'x' :: rest => readCodePoint 2 rest
  | 'u' :: rest => readCodePoint 4 rest
  | 'U' :: rest => readCodePoint 8 rest
  | _ => none

/-- The rest of a basic string after its mark; `seen` holds what was read, last first. -/
def readBasicFrom : Nat → List Char → List Char → Option (String × List Char)
  | 0, _, _ => none
  | _ + 1, _, [] => none
  | fuel + 1, seen, c :: cs =>
      if c = '"' then some (String.ofList seen.reverse, cs)
      else if c = '\\' then
        match readEscape cs with
        | some (c, cs) => readBasicFrom fuel (c :: seen) cs
        | none => none
      else if isControl c then none
      else readBasicFrom fuel (c :: seen) cs

def readBasic (cs : List Char) : Option (String × List Char) := readBasicFrom (cs.length + 1) [] cs

def readLiteral (cs : List Char) : Option (String × List Char) :=
  let isPlain := fun c => c != apostrophe && !isControl c
  match cs.dropWhile isPlain with
  | c :: rest => if c = apostrophe then some (String.ofList (cs.takeWhile isPlain), rest) else none
  | [] => none

def dropLineEnd (cs : List Char) : List Char := (lineEnd? cs).getD cs

def fold? (cs : List Char) : Option (List Char) := (lineEnd? (skipSpace cs)).map skipBlankLines

def readLineEnd : List Char → Option (List Char × List Char)
  | '\n' :: rest => some (['\n'], rest)
  | '\r' :: '\n' :: rest => some (['\n', '\r'], rest)
  | _ => none

def isMark (mark : Char) (cs : List Char) : Bool := cs.take 3 == [mark, mark, mark]

/-- A closing mark may come with one or two more of its characters before it. -/
def closeMark (mark : Char) (seen cs : List Char) : String × List Char :=
  let rest := cs.drop 3
  let extra := (rest.takeWhile (· = mark)).take 2
  (String.ofList (seen.reverse ++ extra), rest.drop extra.length)

def readLongFrom (mark : Char) : Nat → List Char → List Char → Option (String × List Char)
  | 0, _, _ => none
  | fuel + 1, seen, cs =>
      if isMark mark cs then some (closeMark mark seen cs)
      else match readLineEnd cs, cs with
        | some (ending, rest), _ => readLongFrom mark fuel (ending ++ seen) rest
        | none, [] => none
        | none, c :: rest =>
            if c = '\\' && mark = '"' then
              match fold? rest with
              | some rest => readLongFrom mark fuel seen rest
              | none =>
                  match readEscape rest with
                  | some (c, rest) => readLongFrom mark fuel (c :: seen) rest
                  | none => none
            else if isControl c then none
            else readLongFrom mark fuel (c :: seen) rest

def readLong (mark : Char) (cs : List Char) : Option (String × List Char) :=
  readLongFrom mark (cs.length + 1) [] (dropLineEnd cs)

def readString? (cs : List Char) : Option (Option (String × List Char)) :=
  if isMark '"' cs then some (readLong '"' (cs.drop 3))
  else if isMark apostrophe cs then some (readLong apostrophe (cs.drop 3))
  else match cs with
    | c :: rest =>
        if c = '"' then some (readBasic rest)
        else if c = apostrophe then some (readLiteral rest)
        else none
    | [] => none

def isBare (c : Char) : Bool := c.isAlphanum || c = '_' || c = '-'

def readKeyPart (cs : List Char) : Option (String × List Char) :=
  let bare := cs.takeWhile isBare
  if !bare.isEmpty then some (String.ofList bare, cs.dropWhile isBare)
  else if isMark '"' cs || isMark apostrophe cs then none
  else (readString? cs).join

def readKeyFrom : Nat → List Char → Option (List String × String × List Char)
  | 0, _ => none
  | fuel + 1, cs =>
      match readKeyPart (skipSpace cs) with
      | none => none
      | some (part, rest) =>
          match skipSpace rest with
          | '.' :: rest =>
              (readKeyFrom fuel rest).map fun (path, last, rest) => (part :: path, last, rest)
          | rest => some ([], part, rest)

/-- The most tables on the way that a key takes, not counting the one it ends in. -/
def wayLimit : Nat := 79

def readKey (cs : List Char) : Option (List String × String × List Char) :=
  (readKeyFrom (cs.length + 1) cs).filter fun (path, _, _) => path.length ≤ wayLimit

end OverlayFabric.Toml
