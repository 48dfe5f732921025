import OverlayFabric.Address
import OverlayFabric.Domain.Name
import OverlayFabric.Url.Encode

namespace OverlayFabric
open Number Text Url

inductive UrlError where
  | noScheme
  | emptyHost
  | badPort
  | badV4
  | badV6
  | badDomain
  | badHostCharacter
  | notABase
  deriving DecidableEq, Repr

def UrlError.message : UrlError → String
  | .noScheme => "relative URL without a base"
  | .emptyHost => "empty host"
  | .badPort => "invalid port number"
  | .badV4 => "invalid IPv4 address"
  | .badV6 => "invalid IPv6 address"
  | .badDomain => "invalid international domain name"
  | .badHostCharacter => "invalid domain character"
  | .notABase => "relative URL with a cannot-be-a-base base"

inductive Host where
  | name (text : List Char)
  | v4 (address : AddressV4)
  | v6 (address : AddressV6)
  deriving DecidableEq, Repr

namespace Host

def text : Host → List Char
  | .name text => text
  | .v4 address => Address.textV4 address
  | .v6 address => '[' :: Address.textColons address ++ [']']

def isEmpty (host : Host) : Bool := host == .name []

def isForbidden (c : Char) : Bool :=
  c.toNat == 0 || c.toNat == 9 || c.toNat == 10 || c.toNat == 13 ||
    " #/:<>?@[\\]^|".toList.contains c

def legacyNumber? (cs : List Char) : Option Nat :=
  match cs with
  | [] => none
  | '0' :: 'x' :: [] => some 0
  | '0' :: 'x' :: digits => valueOf 16 digits
  | '0' :: c :: digits => valueOf 8 (c :: digits)
  | _ => valueOf 10 cs

def domainParts (domain : List Char) : List (List Char) :=
  let parts := pieces '.' domain
  if 1 < parts.length ∧ parts.getLast? = some [] then parts.dropLast else parts

def endsInNumber (domain : List Char) : Bool :=
  match (domainParts domain).getLast? with
  | some last =>
      (!last.isEmpty && last.all (isDigitOf 10)) ||
        (last.take 2 == ['0', 'x'] && (legacyNumber? last).isSome)
  | none => false

def ofWord (value : Nat) : AddressV4 :=
  let octet := fun shift => (⟨value / shift % 256, Nat.mod_lt _ (by decide)⟩ : Fin 256)
  ⟨octet 16777216, octet 65536, octet 256, octet 1⟩

def frontValue (weight : Nat) : List Nat → Nat
  | [] => 0
  | n :: rest => n * weight + frontValue (weight / 256) rest

def legacyV4 (domain : List Char) : Except UrlError AddressV4 :=
  match (domainParts domain).mapM legacyNumber? with
  | none => .error .badV4
  | some numbers =>
      let front := numbers.dropLast
      let last := numbers.getLast?.getD 0
      if 3 < front.length ∨ front.any (255 < ·) ∨ Nat.pow 256 (4 - front.length) ≤ last then
        .error .badV4
      else .ok (ofWord (frontValue 16777216 front + last))

def readV6 (cs : List Char) : Except UrlError Host :=
  match Address.readV6 cs with
  | some (address, []) => .ok (.v6 address)
  | _ => .error .badV6

def bracketed? : List Char → Option (Except UrlError Host)
  | '[' :: rest =>
      some (if rest.getLast? = some ']' then readV6 rest.dropLast else .error .badV6)
  | _ => none

def readDomain (cs : List Char) : Except UrlError Host :=
  match (decodeText? cs).bind Domain.toAscii? with
  | none => .error .badDomain
  | some domain =>
      if domain.isEmpty then .error .emptyHost
      else if endsInNumber domain then (legacyV4 domain).map .v4
      else .ok (.name domain)

def read (cs : List Char) : Except UrlError Host := (bracketed? cs).getD (readDomain cs)

def readPlain (cs : List Char) : Except UrlError Host :=
  (bracketed? cs).getD
    (if cs.any isForbidden then .error .badHostCharacter
    else .ok (.name (encodeWith isPrintable cs)))

end Host
end OverlayFabric
