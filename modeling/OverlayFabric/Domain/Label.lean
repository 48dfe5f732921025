import OverlayFabric.Domain.Mapping
import OverlayFabric.Domain.Punycode
import OverlayFabric.Text.Direction
import OverlayFabric.Text.Joining
import OverlayFabric.Text.Normal

/-!
Labels, the parts of a domain name. A label that begins with `xn--` is in Punycode, and has to be what
encoding gives; every other label beyond ASCII gets such a form. A label does not begin with a mark, an
invisible joiner stands only where it has an effect, and where names run from right to left the
directions within a label do not mix.
-/

namespace OverlayFabric.Domain
open Text

structure Label where
  text : List Char
  written : List Char
  deriving DecidableEq, Repr

def isAscii (c : Char) : Bool := c.toNat < 128

def isForbidden (c : Char) : Bool :=
  c.toNat ≤ 32 || c.toNat == 127 || "%#/:<>?@[\\]^|".toList.contains c

/-- A joiner may follow a virama; one that keeps letters apart may also stand between two that would
join. `before` holds the characters in front, the last first. -/
def mayJoin (before : List Char) (c : Char) (after : List Char) : Bool :=
  (before.head?.any isVirama) ||
    (c.toNat == 0x200C && joinsAs [.left, .dual] before && joinsAs [.right, .dual] after)

def hasGoodJoiners (before : List Char) : List Char → Bool
  | [] => true
  | c :: cs =>
      let isJoiner := c.toNat == 0x200C || c.toNat == 0x200D
      (!isJoiner || mayJoin before c cs) && hasGoodJoiners (c :: before) cs

namespace Label

def isGood (text : List Char) : Bool :=
  !text.any isForbidden &&
    (text.all isAscii || (!text.head?.any isMark && hasGoodJoiners [] text))

def isSettled (text : List Char) : Bool :=
  text.all (fun c => mapChar? c == some [c]) && compose text == text

def sign : List Char := ['x', 'n', '-', '-']

def encodedLimit : Nat := 2000

def plainLimit : Nat := 1000

def decode? (code : List Char) : Option Label :=
  if code.length ≤ encodedLimit ∧ code.all isAscii ∧ code.getLast?.any (· != '-') then
    (Punycode.decode code).bind fun text =>
      if isSettled text && isGood text then some ⟨text, sign ++ code⟩ else none
  else none

def encode? (text : List Char) : Option Label :=
  if !isGood text then none
  else if text.all isAscii then some ⟨text, text⟩
  else if plainLimit < text.length then none
  else some ⟨text, sign ++ Punycode.encode text⟩

def read? (cs : List Char) : Option Label :=
  if sign.isPrefixOf cs then decode? (cs.drop sign.length) else encode? cs

/-! ## Directions -/

def runsRightToLeft (c : Char) : Bool :=
  0x590 ≤ c.toNat && [.rightToLeft, .arabicLetter, .arabicNumber].contains (direction c)

def isCommon (direction : Direction) : Bool :=
  [.europeanNumber, .europeanSeparator, .europeanTerminator, .commonSeparator, .neutral, .boundary,
    .mark].contains direction

/-- After the first letter of a label come only characters that go with its direction; the last but
marks is a letter or a number, and the two kinds of numbers do not meet. -/
def keepsDirection (label : Label) : Bool :=
  match label.text.map direction with
  | [] => true
  | first :: rest =>
      let rest := rest.reverse.dropWhile (· == .mark)
      let ends := fun kinds => rest.head?.all fun last => kinds.contains last
      match first with
      | .leftToRight =>
          rest.all (fun direction => direction == .leftToRight || isCommon direction) &&
            ends [.leftToRight, .europeanNumber]
      | .rightToLeft | .arabicLetter =>
          rest.all (fun direction =>
            [.rightToLeft, .arabicLetter, .arabicNumber].contains direction ||
              isCommon direction) &&
            ends [.rightToLeft, .arabicLetter, .europeanNumber, .arabicNumber] &&
            !(rest.contains .europeanNumber && rest.contains .arabicNumber)
      | _ => false

end Label
end OverlayFabric.Domain
