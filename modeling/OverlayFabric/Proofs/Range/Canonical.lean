import OverlayFabric.Proofs.Range.Set

namespace OverlayFabric
open Number

variable {ranges others front : List IdRange} {set : RangeSet} {id : Nat}

theorem Covers.le_word (inside : ∀ range ∈ ranges, range.max ≤ wordLimit) (covered : Covers ranges id) : id ≤ wordLimit := by
  obtain ⟨range, member, _, high⟩ := covered
  exact Nat.le_trans high (inside range member)

namespace RangeSet

theorem ofRanges_eq_iff : ofRanges others = ofRanges ranges ↔ ∀ id, Covers others id ↔ Covers ranges id := by
  constructor
  · intro same id
    rw [← contains_ofRanges, ← contains_ofRanges, same]
  · intro same
    refine eq_of_contains fun id => ?_
    rw [contains_ofRanges, contains_ofRanges, same]

theorem ofRanges_ranges : ofRanges set.ranges = set :=
  eq_of_contains fun _ => by rw [contains_ofRanges, contains_iff]

theorem max_le_word (inside : ∀ range ∈ ranges, range.max ≤ wordLimit) :
    ∀ range ∈ (ofRanges ranges).ranges, range.max ≤ wordLimit := by
  intro range member
  have covered : Covers (ofRanges ranges).ranges range.max := ⟨range, member, range.min_le_max, Nat.le_refl _⟩
  exact (contains_ofRanges.mp (contains_iff.mpr covered)).le_word inside

theorem size_eq_sum : set.size = (set.ranges.map IdRange.size).sum := by
  rw [size, List.sum_eq_foldr, List.foldr_map]

theorem size_le (inside : ∀ range ∈ ranges, range.max ≤ wordLimit) : (ofRanges ranges).size ≤ wordLimit + 1 := by
  have words : (ofRanges ranges).ids ⊆ List.range (wordLimit + 1) := by
    intro id member
    have covered := contains_ofRanges.mp (mem_ids.mp member)
    exact List.mem_range.mpr (Nat.lt_succ_of_le (covered.le_word inside))
  rw [← length_ids, ← List.length_range (n := wordLimit + 1)]
  exact ((ofRanges ranges).nodup_ids.subperm words).length_le

theorem sum_le_size (first : front <+: set.ranges) : (front.map IdRange.size).sum ≤ set.size := by
  obtain ⟨rest, whole⟩ := first
  rw [size_eq_sum, ← whole, List.map_append, List.sum_append]
  exact Nat.le_add_right _ _

/-- Ranges of words of thirty-two bits come to one form, which holds just what they cover, once and in ascending order:
neighbours are at least one identifier apart, and no count of its identifiers goes beyond the number of such words. It
is the form of whatever else covers the same, itself included, and of nothing else. -/
theorem one_form_of_covered (inside : ∀ range ∈ ranges, range.max ≤ wordLimit) :
    let set := ofRanges ranges
    set.ranges.Pairwise (fun a b => a.max + 1 < b.min) ∧
    (∀ id, set.contains id = true ↔ ∃ range ∈ ranges, range.contains id = true) ∧
    (∀ id, id ∈ set.ids ↔ ∃ range ∈ ranges, range.contains id = true) ∧ set.ids.Pairwise (· < ·) ∧
    set.size = set.ids.length ∧ (∀ front, front <+: set.ranges → (front.map IdRange.size).sum ≤ 4294967296) ∧
    (∀ range ∈ set.ranges, range.max ≤ wordLimit) ∧
    ofRanges set.ranges = set ∧
    ∀ others, ofRanges others = set ↔
      ∀ id, (∃ range ∈ others, range.contains id = true) ↔ ∃ range ∈ ranges, range.contains id = true := by
  intro set
  have covers (ranges : List IdRange) (id : Nat) : (∃ range ∈ ranges, range.contains id = true) ↔ Covers ranges id := by
    simp only [Covers, IdRange.contains_iff]
  simp only [covers]
  refine ⟨set.separated, fun _ => contains_ofRanges, fun _ => mem_ids.trans contains_ofRanges, set.pairwise_ids,
    set.length_ids.symm, fun front first => ?_, max_le_word inside, ofRanges_ranges, fun _ => ofRanges_eq_iff⟩
  exact Nat.le_trans (sum_le_size first) (size_le inside)

theorem one_form_of_touching_ranges :
    let ranges : List IdRange := [⟨4294967290, 4294967295, by decide⟩, ⟨6, 9, by decide⟩, ⟨1, 5, by decide⟩,
      ⟨2, 3, by decide⟩, ⟨11, 11, by decide⟩, ⟨4294967280, 4294967291, by decide⟩]
    let set : RangeSet := { ranges := [⟨1, 9, by decide⟩, ⟨11, 11, by decide⟩, ⟨4294967280, 4294967295, by decide⟩] }
    ofRanges ranges = set ∧ ofRanges set.ranges = set ∧ set.size = 26 ∧ set.ids.head? = some 1 ∧
      set.ids.getLast? = some 4294967295 := by
  intro ranges set
  obtain ⟨-, -, -, -, -, -, -, again, alike⟩ := @one_form_of_covered ranges (by decide)
  have form : ofRanges ranges = set := by
    rw [← @ofRanges_ranges set, eq_comm, alike]
    intro id
    simp only [ranges, set, List.exists_mem_cons_iff, List.not_mem_nil, false_and, exists_false, or_false,
      IdRange.contains_iff]
    omega
  rw [form] at again
  exact ⟨form, again, by decide, by decide, by decide⟩

end RangeSet
end OverlayFabric
