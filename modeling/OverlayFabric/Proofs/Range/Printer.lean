import OverlayFabric.Proofs.Range.Reader

namespace OverlayFabric
open Number Text

variable {bounds : PoolBounds} {token : List Char} {range other : IdRange} {ranges : List IdRange} {set : RangeSet}
  {lines parts : List (List Char)}

theorem Spells.unique (spells : Spells bounds token range) (also : Spells bounds token other) : range = other := by
  have same := (readEntry_of_spells spells).symm.trans (readEntry_of_spells also)
  cases same
  rfl

namespace IdRange

theorem character_of_mem_text {c : Char} (member : c ∈ range.text) : c.isDigit = true ∨ c = ':' := by
  simp only [text, List.mem_append, List.mem_cons] at member
  rcases member with low | rfl | high
  · exact .inl (isDigit_of_mem_decimal low)
  · exact .inr rfl
  · exact .inl (isDigit_of_mem_decimal high)

theorem comma_not_mem_text : ',' ∉ range.text := by
  intro member
  rcases character_of_mem_text member with digit | colon
  · exact absurd digit (by decide)
  · exact absurd colon (by decide)

theorem bare_text : ∀ c ∈ range.text, isBlank c = false := by
  intro c member
  rcases character_of_mem_text member with digit | rfl
  · exact isBlank_of_isDigit digit
  · decide

theorem text_ne_nil : range.text ≠ [] := by simp [text]

theorem spells_text (least : bounds.min ≤ range.min) (most : range.max ≤ bounds.max) (word : bounds.max ≤ wordLimit) :
    Spells bounds range.text range := by
  have bare (n : Nat) : trim (decimal n) = decimal n :=
    trim_of_bare fun c member => isBlank_of_isDigit (isDigit_of_mem_decimal member)
  have colon : ':' ∉ decimal range.min := fun member => absurd (isDigit_of_mem_decimal member) (by decide)
  have := range.min_le_max
  refine ⟨⟨decimal range.min, decimal range.max, ⟨rfl, colon⟩, ?_, ?_⟩, least, most⟩
  · rw [bare]
    exact reads_decimal (by omega)
  · rw [bare]
    exact reads_decimal (by omega)

end IdRange

namespace RangeSet

theorem tokens_text : tokens [set.text] = set.ranges.map IdRange.text := by
  have each : (set.ranges.map IdRange.text).map trim = set.ranges.map IdRange.text := by
    rw [List.map_map]
    exact List.map_congr_left fun range _ => trim_of_bare IdRange.bare_text
  have filled : ∀ token ∈ set.ranges.map IdRange.text, (token ≠ [] : Bool) = true := by
    simp [IdRange.text_ne_nil]
  unfold tokens
  rw [List.flatMap_singleton, text]
  by_cases empty : set.ranges = []
  · rw [empty]
    rfl
  · rw [List.splitOn_intercalate ',' (by simp [IdRange.comma_not_mem_text]) (by simpa using empty), each]
    exact List.filter_eq_self.mpr filled

theorem tokens_of_cut (cut : [','].intercalate parts = set.text) : tokens parts = set.ranges.map IdRange.text := by
  rw [← tokens_text, ← cut]
  by_cases empty : parts = []
  · rw [empty]
    rfl
  · unfold tokens
    rw [List.flatMap_singleton, flatMap_splitOn empty]

theorem inside_of_covered (inside : ∀ range ∈ ranges, bounds.min ≤ range.min ∧ range.max ≤ bounds.max)
    (member : range ∈ (ofRanges ranges).ranges) : bounds.min ≤ range.min ∧ range.max ≤ bounds.max := by
  have covered (id : Nat) (low : range.min ≤ id) (high : id ≤ range.max) : bounds.min ≤ id ∧ id ≤ bounds.max := by
    obtain ⟨origin, given, least, most⟩ := contains_ofRanges.mp (contains_iff.mpr ⟨range, member, low, high⟩)
    obtain ⟨bottom, top⟩ := inside origin given
    exact ⟨Nat.le_trans bottom least, Nat.le_trans most top⟩
  exact ⟨(covered range.min (Nat.le_refl _) range.min_le_max).1, (covered range.max range.min_le_max (Nat.le_refl _)).2⟩

theorem spelled_of_tokens (entries : (tokens lines).Perm (set.ranges.map IdRange.text))
    (spells : ∀ range ∈ set.ranges, Spells bounds range.text range) :
    spelled bounds lines = {id | set.contains id = true} := by
  ext id
  simp only [spelled, Set.mem_ofPred_eq, entries.mem_iff, contains_iff]
  constructor
  · rintro ⟨token, listed, range, spelling, within⟩
    obtain ⟨origin, member, rfl⟩ := List.mem_map.mp listed
    exact ⟨origin, member, (spells origin member).unique spelling ▸ within⟩
  · rintro ⟨range, member, within⟩
    exact ⟨range.text, List.mem_map.mpr ⟨range, member, rfl⟩, range, spells range member, within⟩

end RangeSet

/-- What is printed of ranges inside the bounds, a million identifiers at most, reads back as their set, and so
do the parts between some of its commas, each on a line, whatever order the lines come in. -/
theorem printed_ranges_read_back (word : bounds.max ≤ wordLimit)
    (inside : ∀ range ∈ ranges, bounds.min ≤ range.min ∧ range.max ≤ bounds.max)
    (few : {id | Covers ranges id}.ncard ≤ 1000000) :
    readRanges bounds [(RangeSet.ofRanges ranges).text] = .ok (.ofRanges ranges) ∧
      ∀ parts lines, [','].intercalate parts = (RangeSet.ofRanges ranges).text → lines.Perm parts →
        readRanges bounds lines = .ok (.ofRanges ranges) := by
  have spells : ∀ range ∈ (RangeSet.ofRanges ranges).ranges, Spells bounds range.text range := by
    intro range member
    obtain ⟨least, most⟩ := RangeSet.inside_of_covered inside member
    exact range.spells_text least most word
  have shuffled (parts lines : List (List Char)) (cut : [','].intercalate parts = (RangeSet.ofRanges ranges).text)
      (order : lines.Perm parts) : readRanges bounds lines = .ok (.ofRanges ranges) := by
    have entries : (tokens lines).Perm ((RangeSet.ofRanges ranges).ranges.map IdRange.text) := by
      rw [← RangeSet.tokens_of_cut cut]
      exact ((order.flatMap_right _).map _).filter _
    have union := RangeSet.spelled_of_tokens entries spells
    refine readRanges_eq_ok.mpr ⟨fun token listed => ?_, ?_, fun id => ?_⟩
    · obtain ⟨range, member, rfl⟩ := List.mem_map.mp (entries.mem_iff.mp listed)
      exact ⟨range, spells range member⟩
    · simpa only [union, RangeSet.contains_ofRanges] using few
    · rw [union, Set.mem_ofPred_eq]
  exact ⟨shuffled [_] [_] List.intercalate_singleton (List.Perm.refl _), shuffled⟩

theorem printed_ranges_read_back_once_cut :
    let ranges : List IdRange := [⟨300, 310, by decide⟩, ⟨100, 200, by decide⟩, ⟨150, 250, by decide⟩]
    let set : RangeSet := { ranges := [⟨100, 250, by decide⟩, ⟨300, 310, by decide⟩] }
    set = .ofRanges ranges ∧ set.text = "100:250,300:310".toList ∧
      readRanges .l3Segment ["100:250,300:310".toList] = .ok set ∧
      readRanges .l3Segment ["300:310".toList, "100:250".toList] = .ok set := by
  intro ranges set
  have joined : set = .ofRanges ranges := by
    refine RangeSet.eq_of_contains fun id => ?_
    rw [RangeSet.contains_ofRanges, RangeSet.contains_iff]
    simp only [Covers, set, ranges, List.exists_mem_cons_iff, List.not_mem_nil, false_and, exists_false, or_false]
    omega
  have few : {id | Covers ranges id}.ncard ≤ 1000000 := by
    have size : {id | set.contains id = true}.ncard = 162 := RangeSet.ncard_eq_size
    rw [joined] at size
    simp only [RangeSet.contains_ofRanges] at size
    omega
  have text : set.text = "100:250,300:310".toList := by decide +kernel
  obtain ⟨whole, cut⟩ := @printed_ranges_read_back .l3Segment ranges (by decide) (by decide) few
  rw [← joined, text] at whole
  rw [← joined] at cut
  exact ⟨joined, text, whole, cut ["100:250".toList, "300:310".toList] _ text.symm (List.Perm.swap _ _ _)⟩

end OverlayFabric
