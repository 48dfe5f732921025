import OverlayFabric.Malformed
import OverlayFabric.Number.Radix

namespace OverlayFabric
open Number

structure IdRange where
  min : Nat
  max : Nat
  min_le_max : min ≤ max
  deriving DecidableEq, Repr

namespace IdRange

def check (min max : Nat) : Except Malformed IdRange :=
  if h : min ≤ max then .ok ⟨min, max, h⟩
  else .error (.range s!"{min}:{max}" "max is smaller than min")

def size (range : IdRange) : Nat := range.max - range.min + 1

def contains (range : IdRange) (id : Nat) : Bool := range.min ≤ id && id ≤ range.max

def ids (range : IdRange) : List Nat := List.range' range.min range.size

def text (range : IdRange) : List Char := decimal range.min ++ ':' :: decimal range.max

def precedes (a b : IdRange) : Bool := a.min < b.min || (a.min == b.min && a.max ≤ b.max)

theorem contains_iff {range : IdRange} {id : Nat} :
    range.contains id = true ↔ range.min ≤ id ∧ id ≤ range.max := by
  simp [contains]

theorem mem_ids {range : IdRange} {id : Nat} : id ∈ range.ids ↔ range.contains id = true := by
  have := range.min_le_max
  simp only [ids, List.mem_range'_1, size, contains_iff]
  omega

theorem length_ids (range : IdRange) : range.ids.length = range.size := by simp [ids]

theorem precedes_trans {a b c : IdRange} (ab : a.precedes b = true) (bc : b.precedes c = true) :
    a.precedes c = true := by
  simp only [precedes, Bool.or_eq_true, Bool.and_eq_true, decide_eq_true_eq, beq_iff_eq] at *
  omega

theorem precedes_total (a b : IdRange) : (a.precedes b || b.precedes a) = true := by
  simp only [precedes, Bool.or_eq_true, Bool.and_eq_true, decide_eq_true_eq, beq_iff_eq]
  omega

theorem min_le_of_precedes {a b : IdRange} (h : a.precedes b = true) : a.min ≤ b.min := by
  simp only [precedes, Bool.or_eq_true, Bool.and_eq_true, decide_eq_true_eq, beq_iff_eq] at h
  omega

end IdRange

def absorb (range : IdRange) : List IdRange → List IdRange
  | [] => [range]
  | next :: rest =>
      if next.min ≤ range.max + 1 then
        absorb ⟨range.min, Nat.max range.max next.max,
          Nat.le_trans range.min_le_max (Nat.le_max_left _ _)⟩ rest
      else range :: absorb next rest

theorem min_le_of_mem_absorb {range r : IdRange} {rest : List IdRange}
    (ordered : ∀ next ∈ rest, range.min ≤ next.min)
    (sorted : rest.Pairwise fun a b => a.min ≤ b.min)
    (member : r ∈ absorb range rest) : range.min ≤ r.min := by
  fun_induction absorb range rest with
  | case1 range => simp_all
  | case2 range next rest close ih =>
      exact ih (fun n h => ordered n (.tail _ h)) (List.pairwise_cons.mp sorted).2 member
  | case3 range next rest apart ih =>
      rcases List.mem_cons.mp member with rfl | member
      · exact Nat.le_refl _
      · have inner := List.pairwise_cons.mp sorted
        exact Nat.le_trans (ordered next (.head _)) (ih inner.1 inner.2 member)

theorem separated_absorb {range : IdRange} {rest : List IdRange}
    (ordered : ∀ next ∈ rest, range.min ≤ next.min)
    (sorted : rest.Pairwise fun a b => a.min ≤ b.min) :
    (absorb range rest).Pairwise fun a b => a.max + 1 < b.min := by
  fun_induction absorb range rest with
  | case1 range => simp
  | case2 range next rest close ih =>
      exact ih (fun n h => ordered n (.tail _ h)) (List.pairwise_cons.mp sorted).2
  | case3 range next rest apart ih =>
      have inner := List.pairwise_cons.mp sorted
      refine List.pairwise_cons.mpr ⟨fun r member => ?_, ih inner.1 inner.2⟩
      have := min_le_of_mem_absorb inner.1 inner.2 member
      omega

structure RangeSet where
  ranges : List IdRange
  separated : ranges.Pairwise fun a b => a.max + 1 < b.min := by simp
  deriving DecidableEq, Repr

namespace RangeSet

def empty : RangeSet := { ranges := [] }

instance : Inhabited RangeSet := ⟨empty⟩

def sorted (ranges : List IdRange) : List IdRange := ranges.mergeSort IdRange.precedes

theorem pairwise_sorted (ranges : List IdRange) :
    (sorted ranges).Pairwise fun a b => a.min ≤ b.min := by
  have ordered : (ranges.mergeSort IdRange.precedes).Pairwise fun a b => a.precedes b = true :=
    List.pairwise_mergeSort (fun a b c => @IdRange.precedes_trans a b c) IdRange.precedes_total ranges
  exact ordered.imp fun h => IdRange.min_le_of_precedes h

def merge : List IdRange → List IdRange
  | [] => []
  | range :: rest => absorb range rest

theorem separated_merge {ranges : List IdRange} (h : ranges.Pairwise fun a b => a.min ≤ b.min) :
    (merge ranges).Pairwise fun a b => a.max + 1 < b.min := by
  cases ranges with
  | nil => simp [merge]
  | cons range rest =>
      have inner := List.pairwise_cons.mp h
      exact separated_absorb inner.1 inner.2

def ofRanges (ranges : List IdRange) : RangeSet :=
  ⟨merge (sorted ranges), separated_merge (pairwise_sorted ranges)⟩

def contains (set : RangeSet) (id : Nat) : Bool := set.ranges.any (·.contains id)

def size (set : RangeSet) : Nat := set.ranges.foldr (·.size + ·) 0

def isEmpty (set : RangeSet) : Bool := set.ranges.isEmpty

def ids (set : RangeSet) : List Nat := set.ranges.flatMap IdRange.ids

def head (count : Nat) : List IdRange → List Nat
  | [] => []
  | range :: rest =>
      let taken := List.range' range.min (Nat.min count range.size)
      taken ++ head (count - taken.length) rest

def text (set : RangeSet) : List Char := [','].intercalate (set.ranges.map IdRange.text)

instance : ToString RangeSet := ⟨fun set => String.ofList set.text⟩

theorem mem_ids {set : RangeSet} {id : Nat} : id ∈ set.ids ↔ set.contains id = true := by
  simp [ids, contains, IdRange.mem_ids]

theorem length_ids (set : RangeSet) : set.ids.length = set.size := by
  unfold ids size
  induction set.ranges with
  | nil => rfl
  | cons range rest ih => simp [IdRange.length_ids, ih]

end RangeSet
end OverlayFabric
