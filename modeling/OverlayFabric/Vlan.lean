import OverlayFabric.Malformed
import OverlayFabric.Number.Radix

namespace OverlayFabric
open Number

@[ext] structure VlanId where
  val : Nat
  pos : 1 ≤ val
  le_top : val ≤ 4094
  deriving Repr

namespace VlanId

instance : DecidableEq VlanId := fun _ _ => decidable_of_iff _ VlanId.ext_iff.symm

def ofNat? (id : Nat) : Option VlanId :=
  if h : 1 ≤ id ∧ id ≤ 4094 then some ⟨id, h.1, h.2⟩ else none

def check (id : Nat) : Except Malformed VlanId :=
  match ofNat? id with
  | some vlan => .ok vlan
  | none => .error (.vlan id)

def interfaceNumber (cs : List Char) : List Char :=
  if (cs.take 4).map Char.toLower = ['v', 'l', 'a', 'n'] then cs.drop 4 else cs

def read (cs : List Char) : Except Malformed VlanId :=
  match readDecimal wordLimit (interfaceNumber cs) with
  | some id => check id
  | none => .error (.vlan 0)

def text (vlan : VlanId) : List Char := decimal vlan.val

@[simp] theorem ofNat?_val (vlan : VlanId) : ofNat? vlan.val = some vlan := by
  simp [ofNat?, vlan.pos, vlan.le_top]

theorem ofNat?_eq_some_iff {id : Nat} {vlan : VlanId} : ofNat? id = some vlan ↔ vlan.val = id := by
  constructor
  · intro h
    unfold ofNat? at h
    split at h
    · cases h; rfl
    · cases h
  · rintro rfl
    exact ofNat?_val vlan

end VlanId
end OverlayFabric
