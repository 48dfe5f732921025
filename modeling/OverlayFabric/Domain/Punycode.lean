import OverlayFabric.Text.Blank

/-!
Punycode, the form in which a domain name carries characters beyond ASCII: first those within it, then
for each other character, in ascending order, how far it lies from the one before, in base 36 digits
whose weights adapt to the distances seen. `decode` reads what `encode` writes, in either case.
-/

namespace OverlayFabric.Domain.Punycode
open Text

def digit (n : Nat) : Char := if n < 26 then Char.ofNat (97 + n) else Char.ofNat (22 + n)

def digitValue? (c : Char) : Option Nat :=
  let n := c.toNat
  if 97 ≤ n && n ≤ 122 then some (n - 97)
  else if 65 ≤ n && n ≤ 90 then some (n - 65)
  else if 48 ≤ n && n ≤ 57 then some (n - 22)
  else none

def threshold (place bias : Nat) : Nat :=
  if place ≤ bias + 1 then 1 else if bias + 26 ≤ place then 26 else place - bias

theorem threshold_bounds (place bias : Nat) :
    1 ≤ threshold place bias ∧ threshold place bias ≤ 26 := by
  unfold threshold
  split
  · omega
  · split <;> omega

def digits (bias place distance : Nat) : List Char :=
  let limit := threshold place bias
  if distance < limit then [digit distance]
  else digit (limit + (distance - limit) % (36 - limit)) ::
    digits bias (place + 36) ((distance - limit) / (36 - limit))
termination_by distance
decreasing_by
  have bounds := threshold_bounds place bias
  have shrinks := Nat.div_le_self (distance - threshold place bias) (36 - threshold place bias)
  omega

def settle (distance place : Nat) : Nat :=
  if 455 < distance then settle (distance / 35) (place + 36)
  else place + 36 * distance / (distance + 38)
termination_by distance
decreasing_by exact Nat.div_lt_self (by omega) (by omega)

def adapt (distance count : Nat) (first : Bool) : Nat :=
  let halved := if first then distance / 700 else distance / 2
  settle (halved + halved / count) 0

structure Progress where
  written : List Char
  distance : Nat
  bias : Nat
  handled : Nat

def visit (basic target : Nat) (progress : Progress) (c : Char) : Progress :=
  if c.toNat < target then { progress with distance := progress.distance + 1 }
  else if c.toNat = target then {
    written := progress.written ++ digits progress.bias 36 progress.distance
    distance := 0
    bias := adapt progress.distance (progress.handled + 1) (progress.handled == basic)
    handled := progress.handled + 1 }
  else progress

def encodeEach (label : List Char) (basic : Nat) : Nat → List Nat → Progress → List Char
  | _, [], progress => progress.written
  | reached, target :: targets, progress =>
      let skipped := progress.distance + (target - reached) * (progress.handled + 1)
      let done := label.foldl (visit basic target) { progress with distance := skipped }
      encodeEach label basic (target + 1) targets { done with distance := done.distance + 1 }

def encode (label : List Char) : List Char :=
  let basic := label.filter (·.toNat < 128)
  let targets := (((label.map Char.toNat).filter (128 ≤ ·)).mergeSort (· ≤ ·)).eraseReps
  let lead := if basic.isEmpty then [] else basic ++ ['-']
  encodeEach label basic.length 128 targets ⟨lead, 0, 72, basic.length⟩

/-- Adds the number that begins here, whose next digit counts `weight`, to a sum; gives it with what
follows. -/
def readNumber (bias : Nat) : List Char → Nat → Nat → Nat → Option (Nat × List Char)
  | [], _, _, _ => none
  | c :: cs, place, weight, sum =>
      match digitValue? c with
      | none => none
      | some value =>
          let limit := threshold place bias
          if value < limit then some (sum + value * weight, cs)
          else readNumber bias cs (place + 36) (weight * (36 - limit)) (sum + value * weight)

theorem length_lt_of_readNumber {bias place weight sum value : Nat} {cs rest : List Char}
    (h : readNumber bias cs place weight sum = some (value, rest)) : rest.length < cs.length := by
  induction cs generalizing place weight sum with
  | nil => simp [readNumber] at h
  | cons c cs ih =>
      simp only [readNumber] at h
      split at h
      · cases h
      · split at h
        · cases h
          simp
        · exact Nat.lt_succ_of_lt (ih h)

def decodeFrom (written : List Char) (reached place bias : Nat) (cs : List Char) :
    Option (List Char) :=
  if cs.isEmpty then some written
  else match found : readNumber bias cs 36 1 place with
    | none => none
    | some (sum, rest) =>
        have := length_lt_of_readNumber found
        let count := written.length + 1
        let code := reached + sum / count
        if Nat.isValidChar code then
          decodeFrom (written.insertIdx (sum % count) (Char.ofNat code)) code (sum % count + 1)
            (adapt (sum - place) count (place == 0)) rest
        else none
termination_by cs.length

def decode (cs : List Char) : Option (List Char) :=
  match cut? '-' cs.reverse with
  | some (_, []) => none
  | some (back, front) => decodeFrom (lowerAscii front.reverse) 128 0 72 back.reverse
  | none => decodeFrom [] 128 0 72 cs

end OverlayFabric.Domain.Punycode
