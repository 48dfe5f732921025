import OverlayFabric.Number.Radix

/-!
Binary floating-point numbers of sixty-four bits, as the exact values they are. `nearest?` rounds a
decimal to the nearest of them, a tie to the even one; `shortest` gives the fewest digits that round
back, and of those the closest.
-/

namespace OverlayFabric.Number

structure Double where
  mantissa : Nat
  exponent : Int
  deriving DecidableEq, Repr

structure Scientific where
  digits : Nat
  exponent : Int
  deriving DecidableEq, Repr

def scaleRatio (base : Nat) (exponent : Int) (num den : Nat) : Nat × Nat :=
  if 0 ≤ exponent then (num * Nat.pow base exponent.toNat, den)
  else (num, den * Nat.pow base (-exponent).toNat)

def roundHalfEven (num den : Nat) : Nat :=
  let q := num / den
  let r := num % den
  if 2 * r < den then q else if den < 2 * r then q + 1 else if q % 2 = 0 then q else q + 1

namespace Double

def leastExponent : Int := -1074

def mantissaLimit : Nat := Nat.pow 2 53

def mantissaAt (num den : Nat) (exponent : Int) : Nat :=
  let (n, d) := scaleRatio 2 (-exponent) num den
  roundHalfEven n d

def ofRatio? (num den : Nat) : Option Double :=
  if num = 0 then some ⟨0, 0⟩
  else
    let guess : Int := (num.log2 : Int) - (den.log2 : Int) - 53
    let start := if guess < leastExponent then leastExponent else guess
    let candidates := [start, start + 1, start + 2]
    match candidates.find? fun e => mantissaAt num den e < mantissaLimit with
    | none => none
    | some e => if 971 < e then none else some ⟨mantissaAt num den e, e⟩

def nearest? (decimal : Scientific) : Option Double :=
  let places : Int := (Number.decimal decimal.digits).length
  if decimal.digits = 0 then some ⟨0, 0⟩
  else if places + decimal.exponent < -400 then some ⟨0, 0⟩
  else if 400 < places + decimal.exponent then none
  else
    let (num, den) := scaleRatio 10 decimal.exponent decimal.digits 1
    ofRatio? num den

/-- Whether `digits * 10 ^ exponent` rounds to the double, from the ends of its interval in quarters
of the last place. -/
def covers (value : Double) (candidate : Scientific) : Bool :=
  let narrow := 2 * value.mantissa == mantissaLimit && leastExponent < value.exponent
  let low := 4 * value.mantissa - (if narrow then 1 else 2)
  let high := 4 * value.mantissa + 2
  let (num, den) := scaleRatio 10 candidate.exponent candidate.digits 1
  let (n, d) := scaleRatio 2 (2 - value.exponent) num den
  if value.mantissa % 2 = 0 then low * d ≤ n && n ≤ high * d else low * d < n && n < high * d

/-- The neighbours of the double on the grid of multiples of a power of ten, the nearer first. -/
def neighbours (value : Double) (exponent : Int) : List Scientific :=
  let (n, d) := scaleRatio 2 value.exponent value.mantissa 1
  let (num, den) := scaleRatio 10 (-exponent) n d
  let below := num / den
  if 2 * (num % den) ≤ den then [⟨below, exponent⟩, ⟨below + 1, exponent⟩]
  else [⟨below + 1, exponent⟩, ⟨below, exponent⟩]

/-- One more than the exponent of the leading digit, at most one too large. -/
def magnitude (value : Double) : Int :=
  let (num, den) := scaleRatio 2 value.exponent value.mantissa 1
  (decimal (num / den)).length + (if num < den then
    1 - ((decimal (den / num)).length : Int) else 0)

def search (value : Double) (top : Int) : Nat → Nat → Scientific
  | 0, _ => ⟨0, 0⟩
  | fuel + 1, places =>
      match (neighbours value (top - places)).find? (covers value) with
      | some found => found
      | none => search value top fuel (places + 1)

def stripZeros : Nat → Scientific → Scientific
  | 0, s => s
  | fuel + 1, s =>
      if s.digits ≠ 0 ∧ s.digits % 10 = 0 then stripZeros fuel ⟨s.digits / 10, s.exponent + 1⟩
      else s

def shortest (value : Double) : Scientific :=
  if value.mantissa = 0 then ⟨0, 0⟩
  else stripZeros 400 (search value (magnitude value) 24 0)

end Double
end OverlayFabric.Number
