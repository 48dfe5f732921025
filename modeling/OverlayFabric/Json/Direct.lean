import OverlayFabric.Json.Reader

/-!
Values read off a text without a tree in between. What nobody asks for is passed over: its grammar is checked, but a
number may have any size, an escape may be half of a surrogate pair, and nothing limits the depth. The names of fields
that are passed over may repeat; a field that is read may not.
-/

namespace OverlayFabric.Json
open Number

variable {α σ : Type}

abbrev Reader (α : Type) := List Char → Option (α × List Char)

def expect (mark : Char) (cs : List Char) : Option (List Char) :=
  match skipSpace cs with
  | c :: rest => if c = mark then some rest else none
  | [] => none

def readSeparated (mark : Char) (item : σ → Reader σ) : Nat → σ → Reader σ
  | 0, _, _ => none
  | fuel + 1, state, cs =>
      match item state cs with
      | none => none
      | some (state, rest) =>
          match expect ',' rest with
          | some rest => readSeparated mark item fuel state rest
          | none => (expect mark rest).map fun rest => (state, rest)

def readEnclosed (mark : Char) (item : σ → Reader σ) (state : σ) : Reader σ := fun cs =>
  match expect mark cs with
  | some rest => some (state, rest)
  | none => readSeparated mark item cs.length state cs

/-! ## What is passed over -/

def skipString : Reader Unit
  | '\\' :: 'u' :: a :: b :: c :: d :: rest =>
      if [a, b, c, d].all (isDigitOf 16) then skipString rest else none
  | '\\' :: c :: rest => if (plainEscape? c).isSome then skipString rest else none
  | '"' :: rest => some ((), rest)
  | c :: rest => if c.toNat < 32 then none else skipString rest
  | [] => none

def skipValue : Nat → Reader Unit
  | 0, _ => none
  | fuel + 1, cs =>
      match skipSpace cs with
      | '"' :: rest => skipString rest
      | '[' :: rest => readEnclosed ']' (fun _ => skipValue fuel) () rest
      | '{' :: rest =>
          let field : Reader Unit := fun cs => do
            let (_, rest) ← skipString (← expect '"' cs)
            skipValue fuel (← expect ':' rest)
          readEnclosed '}' (fun _ => field) () rest
      | 't' :: rest => (expectAll "rue".toList rest).map fun rest => ((), rest)
      | 'f' :: rest => (expectAll "alse".toList rest).map fun rest => ((), rest)
      | 'n' :: rest => (expectAll "ull".toList rest).map fun rest => ((), rest)
      | rest => (readNumeral rest).map fun (_, rest) => ((), rest)

/-! ## What is read, at so many levels that may open -/

def readAny (depth : Nat) : Reader Json := fun cs => readValue (2 * cs.length + 2) depth cs

def readList (read : Nat → Reader α) : Nat → Reader (List α)
  | 0, _ => none
  | depth + 1, cs => do
      let item : List α → Reader (List α) := fun seen cs =>
        (read depth cs).map fun (value, rest) => (value :: seen, rest)
      let (seen, rest) ← readEnclosed ']' item [] (← expect '[' cs)
      return (seen.reverse, rest)

def readField (name : String) (read : Reader α) (given : Option α) : Reader (Option α) := fun cs => do
  let (field, rest) ← readString (← expect '"' cs)
  let rest ← expect ':' rest
  if field = name then
    if given.isSome then none
    let (value, rest) ← read rest
    return (some value, rest)
  else
    let (_, rest) ← skipValue (rest.length + 1) rest
    return (given, rest)

def readSole (name : String) (read : Nat → Reader α) : Nat → Reader (Option α)
  | 0, _ => none
  | depth + 1, cs =>
      match skipSpace cs with
      | '{' :: rest => readEnclosed '}' (readField name (read depth)) none rest
      | '[' :: rest =>
          match expect ']' rest with
          | some rest => some (none, rest)
          | none => do
              let (value, rest) ← read depth rest
              return (some value, ← expect ']' rest)
      | _ => none

def readWhole (read : Nat → Reader α) (text : String) : Option α := do
  let (value, rest) ← read depthLimit text.toList
  if (skipSpace rest).isEmpty then some value else none

end OverlayFabric.Json
