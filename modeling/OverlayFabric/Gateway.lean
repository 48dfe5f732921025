import OverlayFabric.Address
import OverlayFabric.Malformed
import OverlayFabric.Text.Blank

namespace OverlayFabric
open Number Text

structure GatewayCidr where
  address : Address
  prefixLength : Nat
  fits : prefixLength ≤ address.width
  deriving DecidableEq, Repr

namespace GatewayCidr

def slashText (address : Address) (prefixLength : Nat) : List Char :=
  address.text ++ '/' :: decimal prefixLength

def text (cidr : GatewayCidr) : List Char := slashText cidr.address cidr.prefixLength

def check (address : Address) (prefixLength : Nat) : Except Malformed GatewayCidr :=
  if h : prefixLength ≤ address.width then .ok ⟨address, prefixLength, h⟩
  else .error (.gateway (String.ofList (slashText address prefixLength)))

def readLength? (cs : List Char) : Option Nat := readDecimal 255 (trim cs)

def parts? (cs : List Char) : Option (Address × Nat) := do
  let (left, right) ← cut? '/' cs
  let address ← Address.read? (trim left)
  let length ← readLength? right
  return (address, length)

def read (cs : List Char) : Except Malformed GatewayCidr :=
  match parts? cs with
  | some (address, length) => check address length
  | none => .error (.gateway (String.ofList cs))

def ofSubnet (address : Address) (subnet : List Char) : Except Malformed GatewayCidr :=
  match (cut? '/' subnet).bind fun (_, right) => readLength? right with
  | some length => check address length
  | none => .error (.gateway (String.ofList subnet))

def ofText? (text : String) : Option GatewayCidr := (read text.toList).toOption

instance : ToString GatewayCidr := ⟨fun cidr => String.ofList cidr.text⟩

end GatewayCidr
end OverlayFabric
