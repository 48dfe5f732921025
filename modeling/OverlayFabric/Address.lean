import OverlayFabric.Number.Radix

namespace OverlayFabric
open Number

structure AddressV4 where
  a : Fin 256
  b : Fin 256
  c : Fin 256
  d : Fin 256
  deriving DecidableEq, Repr

structure AddressV6 where
  groups : List (Fin 65536)
  size : groups.length = 8
  deriving DecidableEq, Repr

inductive Address where
  | v4 (address : AddressV4)
  | v6 (address : AddressV6)
  deriving DecidableEq, Repr

namespace Address

def readNumber (radix most : Nat) (padded : Bool) (cs : List Char) : Option (Nat × List Char) :=
  let digits := cs.takeWhile (isDigitOf radix)
  if digits.length > most || (!padded && digits.head? == some '0' && digits.length > 1) then none
  else (valueOf radix digits).map fun value => (value, cs.dropWhile (isDigitOf radix))

def expect (c : Char) : List Char → Option (List Char)
  | [] => none
  | c' :: cs => if c' = c then some cs else none

def readOctet (cs : List Char) : Option (Fin 256 × List Char) := do
  let (value, rest) ← readNumber 10 3 false cs
  if h : value < 256 then some (⟨value, h⟩, rest) else none

def readV4 (cs : List Char) : Option (AddressV4 × List Char) := do
  let (a, cs) ← readOctet cs
  let (b, cs) ← readOctet (← expect '.' cs)
  let (c, cs) ← readOctet (← expect '.' cs)
  let (d, cs) ← readOctet (← expect '.' cs)
  some (⟨a, b, c, d⟩, cs)

def pairGroup (high low : Fin 256) : Fin 65536 := ⟨high.val * 256 + low.val, by omega⟩

def dottedGroups (address : AddressV4) : List (Fin 65536) :=
  [pairGroup address.a address.b, pairGroup address.c address.d]

def readGroup (cs : List Char) : Option (Fin 65536 × List Char) := do
  let (value, rest) ← readNumber 16 4 true cs
  if h : value < 65536 then some (⟨value, h⟩, rest) else none

def afterColon (first : Bool) (cs : List Char) : Option (List Char) :=
  if first then some cs else expect ':' cs

/-- The groups at the front, at most `room`. A dotted part stands for two and ends them; the flag
tells that there was one. -/
def readGroups : Nat → Bool → List Char → List (Fin 65536) × Bool × List Char
  | 0, _, cs => ([], false, cs)
  | room + 1, first, cs =>
      match if 1 ≤ room then (afterColon first cs).bind readV4 else none with
      | some (dotted, rest) => (dottedGroups dotted, true, rest)
      | none =>
          match (afterColon first cs).bind readGroup with
          | some (group, rest) =>
              let (groups, dotted, rest) := readGroups room false rest
              (group :: groups, dotted, rest)
          | none => ([], false, cs)

def ofGroups? (groups : List (Fin 65536)) : Option AddressV6 :=
  if h : groups.length = 8 then some ⟨groups, h⟩ else none

def readV6 (cs : List Char) : Option (AddressV6 × List Char) := do
  let (front, dotted, cs) := readGroups 8 true cs
  if front.length = 8 then
    return (← ofGroups? front, cs)
  if dotted then none
  let cs ← expect ':' (← expect ':' cs)
  let (back, _, cs) := readGroups (7 - front.length) true cs
  return (← ofGroups? (front ++ List.replicate (8 - front.length - back.length) 0 ++ back), cs)

def read? (cs : List Char) : Option Address :=
  match readV4 cs with
  | some (address, rest) => if rest.isEmpty then some (.v4 address) else none
  | none =>
      match readV6 cs with
      | some (address, rest) => if rest.isEmpty then some (.v6 address) else none
      | none => none

def textV4 (address : AddressV4) : List Char :=
  decimal address.a.val ++ '.' :: decimal address.b.val ++ '.' :: decimal address.c.val ++
    '.' :: decimal address.d.val

def zeroRun : List (Fin 65536) → Nat × Nat
  | [] => (0, 0)
  | group :: groups =>
      let here := ((group :: groups).takeWhile (· == 0)).length
      let (start, length) := zeroRun groups
      if length ≤ here then (0, here) else (start + 1, length)

def textGroups (groups : List (Fin 65536)) : List Char :=
  [':'].intercalate (groups.map fun group => numeral 16 group.val)

def mapped? (address : AddressV6) : Option AddressV4 :=
  match address.groups with
  | [0, 0, 0, 0, 0, 65535, high, low] =>
      some ⟨⟨high.val / 256, by omega⟩, ⟨high.val % 256, by omega⟩,
        ⟨low.val / 256, by omega⟩, ⟨low.val % 256, by omega⟩⟩
  | _ => none

def textColons (address : AddressV6) : List Char :=
  let (start, length) := zeroRun address.groups
  if 1 < length then
    textGroups (address.groups.take start) ++ "::".toList ++
      textGroups (address.groups.drop (start + length))
  else textGroups address.groups

def textV6 (address : AddressV6) : List Char :=
  match mapped? address with
  | some dotted => "::ffff:".toList ++ textV4 dotted
  | none => textColons address

def text : Address → List Char
  | .v4 address => textV4 address
  | .v6 address => textV6 address

def isV6 : Address → Bool
  | .v4 _ => false
  | .v6 _ => true

def width : Address → Nat
  | .v4 _ => 32
  | .v6 _ => 128

end Address
end OverlayFabric
