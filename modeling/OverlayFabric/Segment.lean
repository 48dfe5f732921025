import OverlayFabric.Malformed
import OverlayFabric.Number.Radix
import OverlayFabric.Text.Blank

namespace OverlayFabric
open Number Text

structure SegmentId where
  val : Nat
  pos : 1 ≤ val
  le_top : val ≤ 16777215
  deriving DecidableEq, Repr

namespace SegmentId

theorem eq_of_val {a b : SegmentId} (same : a.val = b.val) : a = b := by
  cases a
  cases b
  cases same
  rfl

def ofNat? (id : Nat) : Option SegmentId :=
  if h : 1 ≤ id ∧ id ≤ 16777215 then some ⟨id, h.1, h.2⟩ else none

def check (id : Nat) : Except Malformed SegmentId :=
  match ofNat? id with
  | some segment => .ok segment
  | none => .error (.segment id)

def read (cs : List Char) : Except Malformed SegmentId :=
  match readDecimal wordLimit (trim cs) with
  | some id => check id
  | none => .error (.segment 0)

def text (segment : SegmentId) : List Char := decimal segment.val

@[simp] theorem ofNat?_val (segment : SegmentId) : ofNat? segment.val = some segment := by
  simp [ofNat?, segment.pos, segment.le_top]

theorem ofNat?_eq_some_iff {id : Nat} {segment : SegmentId} :
    ofNat? id = some segment ↔ segment.val = id := by
  constructor
  · intro h
    unfold ofNat? at h
    split at h
    · cases h; rfl
    · cases h
  · rintro rfl
    exact ofNat?_val segment

end SegmentId

/-- A tenant overlay network, an external network ending on border leaves, a plain VLAN, or else. -/
inductive SegmentKind where
  | tenantOverlay
  | externalNet
  | vlan
  | other
  deriving DecidableEq, Repr

namespace SegmentKind

def ofNetworkType (networkType : String) : SegmentKind :=
  if networkType = "aster_vxlan" then .tenantOverlay
  else if networkType = "aster_ext_net" then .externalNet
  else if networkType = "vlan" then .vlan
  else .other

def networkType : SegmentKind → String
  | .tenantOverlay => "aster_vxlan"
  | .externalNet => "aster_ext_net"
  | .vlan => "vlan"
  | .other => "other"

end SegmentKind
end OverlayFabric
