import OverlayFabric.Configuration.Check
import OverlayFabric.Proofs.Keyed
import OverlayFabric.Proofs.Pool.Sound
import OverlayFabric.Proofs.Range.Reader
import OverlayFabric.Store.Allocator

namespace OverlayFabric

variable {field : String} {bounds : PoolBounds} {lines : List String} {set : RangeSet}
  {borders : List (String × BorderSettings)} {found : List (String × RangeSet)}

theorem bounds_of_readRanges {lines : List (List Char)} (read : readRanges bounds lines = .ok set)
    {id : Nat} (contained : set.contains id = true) : bounds.min ≤ id ∧ id ≤ bounds.max := by
  obtain ⟨_, _, union⟩ := readRanges_eq_ok.mp read
  obtain ⟨_, _, range, spells, low, high⟩ := (union id).mp contained
  exact ⟨Nat.le_trans spells.least low, Nat.le_trans high spells.most⟩

theorem checkRanges_eq_ok :
    checkRanges field bounds lines = .ok set ↔ readRanges bounds (lines.map String.toList) = .ok set := by
  unfold checkRanges
  cases readRanges bounds (lines.map String.toList) <;> simp

def ReadAs (border : String × BorderSettings) (pair : String × RangeSet) : Prop :=
  pair.1 = border.1 ∧ readRanges .borderVlan (border.2.vlanRanges.map String.toList) = .ok pair.2

theorem ranges_of_checkBorders (checked : checkBorders borders = .ok found) : List.Forall₂ ReadAs borders found := by
  induction borders generalizing found with
  | nil =>
      cases checked
      exact .nil
  | cons border rest ih =>
      obtain ⟨set, first, checked⟩ := Result.bind_eq_ok.mp checked
      obtain ⟨others, later, checked⟩ := Result.bind_eq_ok.mp checked
      cases checked
      obtain ⟨_, _, first⟩ := Result.bind_eq_ok.mp first
      obtain ⟨_, _, first⟩ := Result.bind_eq_ok.mp first
      exact .cons ⟨rfl, checkRanges_eq_ok.mp first⟩ (ih later)

theorem read_of_ranges (sets : List.Forall₂ ReadAs borders found) :
    ∀ pair ∈ found, ∃ lines, readRanges .borderVlan lines = .ok pair.2 := by
  induction sets with
  | nil => exact nofun
  | cons first rest ih => exact List.forall_mem_cons.mpr ⟨⟨_, first.2⟩, ih⟩

structure PoolRanges.Proper (ranges : PoolRanges) : Prop where
  l2 : ∀ id, ranges.l2.contains id = true → Pool.l2Segment.Names id
  l3 : ∀ id, ranges.l3.contains id = true → Pool.l3Segment.Names id
  border : ∀ switch id, (BorderPool.rangesOf ⟨ranges.border⟩ switch).contains id = true → Pool.borderVlan.Names id

theorem Configuration.proper_of_check {configuration : Configuration} {ranges : PoolRanges}
    (checked : configuration.check = .ok ranges) : ranges.Proper := by
  obtain ⟨l2, readL2, checked⟩ := Result.bind_eq_ok.mp checked
  obtain ⟨l3, readL3, checked⟩ := Result.bind_eq_ok.mp checked
  obtain ⟨_, _, checked⟩ := Result.bind_eq_ok.mp checked
  obtain ⟨border, readBorder, checked⟩ := Result.bind_eq_ok.mp checked
  cases checked
  rw [checkRanges_eq_ok] at readL2 readL3
  refine ⟨fun id contained => ?_, fun id contained => ?_, fun switch id contained => ?_⟩
  · obtain ⟨low, high⟩ := bounds_of_readRanges readL2 contained
    exact ⟨Nat.le_trans (by decide) low, high⟩
  · exact bounds_of_readRanges readL3 contained
  · unfold BorderPool.rangesOf at contained
    simp only at contained
    cases given : (Keyed.ofList border).get? switch with
    | none =>
        rw [given] at contained
        cases contained
    | some set =>
        rw [given] at contained
        have listed : (switch, set) ∈ border := Keyed.mem_ofList (Keyed.mem_of_findKey? given)
        obtain ⟨lines, read⟩ := read_of_ranges (ranges_of_checkBorders readBorder) _ listed
        exact bounds_of_readRanges read contained

end OverlayFabric
