import Mathlib.Data.Set.Card
import OverlayFabric.Range.Basic

namespace OverlayFabric

def Covers (ranges : List IdRange) (id : Nat) : Prop := ∃ range ∈ ranges, range.min ≤ id ∧ id ≤ range.max

def Apart (ranges : List IdRange) : Prop := ranges.Pairwise fun a b => a.max + 1 < b.min

variable {range first : IdRange} {ranges rest others : List IdRange} {id : Nat}

theorem covers_cons : Covers (range :: rest) id ↔ (range.min ≤ id ∧ id ≤ range.max) ∨ Covers rest id := by
  simp [Covers]

theorem covers_absorb (ordered : ∀ next ∈ rest, range.min ≤ next.min) (sorted : rest.Pairwise fun a b => a.min ≤ b.min) :
    Covers (absorb range rest) id ↔ Covers (range :: rest) id := by
  fun_induction absorb range rest with
  | case1 range => rfl
  | case2 range next rest close ih =>
      have after := ordered next (.head _)
      have joined : id ≤ Nat.max range.max next.max ↔ id ≤ range.max ∨ id ≤ next.max := le_max_iff
      rw [ih (fun n member => ordered n (.tail _ member)) (List.pairwise_cons.mp sorted).2, covers_cons, covers_cons,
        covers_cons, ← or_assoc]
      refine or_congr_left ?_
      change range.min ≤ id ∧ id ≤ Nat.max range.max next.max ↔ _
      rw [joined]
      have := range.min_le_max
      have := next.min_le_max
      omega
  | case3 range next rest apart ih =>
      obtain ⟨inner, later⟩ := List.pairwise_cons.mp sorted
      rw [covers_cons, ih inner later, ← covers_cons]

theorem covers_merge (sorted : ranges.Pairwise fun a b => a.min ≤ b.min) :
    Covers (RangeSet.merge ranges) id ↔ Covers ranges id := by
  cases ranges with
  | nil => rfl
  | cons first rest =>
      obtain ⟨least, later⟩ := List.pairwise_cons.mp sorted
      exact covers_absorb least later

namespace Apart

variable (apart : Apart (range :: rest))
include apart

theorem beyond (covered : Covers rest id) : range.max + 1 < id := by
  obtain ⟨other, member, low, _⟩ := covered
  exact Nat.lt_of_lt_of_le ((List.pairwise_cons.mp apart).1 other member) low

theorem min_le (covered : Covers (range :: rest) id) : range.min ≤ id := by
  rcases covers_cons.mp covered with ⟨low, _⟩ | later
  · exact low
  · have := apart.beyond later
    have := range.min_le_max
    omega

theorem not_covers_next : ¬ Covers (range :: rest) (range.max + 1) := by
  intro covered
  rcases covers_cons.mp covered with ⟨_, high⟩ | later
  · omega
  · exact Nat.lt_irrefl _ (apart.beyond later)

theorem covers_tail : Covers rest id ↔ Covers (range :: rest) id ∧ range.max < id := by
  constructor
  · exact fun covered => ⟨covers_cons.mpr (.inr covered), Nat.lt_of_succ_lt (apart.beyond covered)⟩
  · rintro ⟨covered, beyond⟩
    rcases covers_cons.mp covered with ⟨_, high⟩ | later
    · omega
    · exact later

end Apart

theorem max_le_of_covers (also : Apart (first :: others)) (start : range.min = first.min)
    (same : ∀ id, Covers (range :: rest) id ↔ Covers (first :: others) id) : range.max ≤ first.max := by
  by_contra longer
  refine also.not_covers_next ((same (first.max + 1)).mp (covers_cons.mpr (.inl ?_)))
  have := first.min_le_max
  omega

theorem eq_of_covers (apart : Apart ranges) (also : Apart others) (same : ∀ id, Covers ranges id ↔ Covers others id) :
    ranges = others := by
  have head (range : IdRange) (rest : List IdRange) : Covers (range :: rest) range.min :=
    covers_cons.mpr (.inl ⟨Nat.le_refl _, range.min_le_max⟩)
  induction ranges generalizing others with
  | nil =>
      cases others with
      | nil => rfl
      | cons first others =>
          obtain ⟨range, member, _⟩ := (same first.min).mpr (head first others)
          cases member
  | cons range rest ih =>
      cases others with
      | nil =>
          obtain ⟨first, member, _⟩ := (same range.min).mp (head range rest)
          cases member
      | cons first others =>
          have start : range.min = first.min := Nat.le_antisymm
            (apart.min_le ((same _).mpr (head first others))) (also.min_le ((same _).mp (head range rest)))
          have stop : range.max = first.max := Nat.le_antisymm
            (max_le_of_covers also start same) (max_le_of_covers apart start.symm fun id => (same id).symm)
          have tails : rest = others := by
            refine ih (List.pairwise_cons.mp apart).2 (List.pairwise_cons.mp also).2 fun id => ?_
            rw [apart.covers_tail, also.covers_tail, same, stop]
          obtain ⟨low, high, _⟩ := range
          obtain ⟨low', high', _⟩ := first
          cases start
          cases stop
          rw [tails]

namespace RangeSet

variable {set other : RangeSet}

theorem contains_iff : set.contains id = true ↔ Covers set.ranges id := by
  simp only [contains, List.any_eq_true, IdRange.contains_iff, Covers]

theorem contains_ofRanges : (ofRanges ranges).contains id = true ↔ Covers ranges id := by
  have listed : Covers (sorted ranges) id ↔ Covers ranges id := by
    simp only [Covers, sorted, List.mem_mergeSort]
  rw [contains_iff, ← listed]
  exact covers_merge (pairwise_sorted ranges)

theorem eq_of_contains (same : ∀ id, set.contains id = true ↔ other.contains id = true) : set = other := by
  have ranges : set.ranges = other.ranges :=
    eq_of_covers set.separated other.separated fun id => by rw [← contains_iff, same, contains_iff]
  obtain ⟨_, _⟩ := set
  cases ranges
  rfl

theorem pairwise_ids (set : RangeSet) : set.ids.Pairwise (· < ·) := by
  refine List.pairwise_flatMap.mpr ⟨fun range _ => List.pairwise_lt_range' _, set.separated.imp ?_⟩
  intro a b apart first inA second inB
  have := IdRange.contains_iff.mp (IdRange.mem_ids.mp inA)
  have := IdRange.contains_iff.mp (IdRange.mem_ids.mp inB)
  omega

theorem nodup_ids (set : RangeSet) : set.ids.Nodup := set.pairwise_ids.imp Nat.ne_of_lt

theorem setOf_contains : {id | set.contains id = true} = ↑set.ids.toFinset := by
  ext id
  simp [mem_ids]

theorem ncard_eq_size : {id | set.contains id = true}.ncard = set.size := by
  rw [setOf_contains, Set.ncard_coe_finset, List.toFinset_card_of_nodup set.nodup_ids, length_ids]

end RangeSet

end OverlayFabric
