import OverlayFabric.Proofs.Range.Set
import OverlayFabric.Proofs.Result
import OverlayFabric.Proofs.Text.Word
import OverlayFabric.Range.Reader

namespace OverlayFabric
open Number Text

variable {bounds : PoolBounds} {token left right : List Char} {range : IdRange} {reason : String} {n : Nat}
  {lines : List (List Char)}

def tokens (lines : List (List Char)) : List (List Char) :=
  ((lines.flatMap (·.splitOn ',')).map trim).filter (· ≠ [])

theorem rangeEntries_eq : rangeEntries lines = tokens lines := by
  have split : pieces ',' = fun line : List Char => line.splitOn ',' := funext fun _ => pieces_eq_splitOn
  rw [rangeEntries, split, tokens]
  refine List.filter_congr fun token _ => ?_
  cases token <;> rfl

def Sides (token left right : List Char) : Prop := token = left ++ ':' :: right ∧ ':' ∉ left

structure Spells (bounds : PoolBounds) (token : List Char) (range : IdRange) : Prop where
  sides : ∃ left right, Sides token left right ∧ Reads wordLimit (trim left) range.min ∧ Reads wordLimit (trim right) range.max
  least : bounds.min ≤ range.min
  most : range.max ≤ bounds.max

/-- What is wrong with an entry, the checks that come first having passed. -/
inductive Flaw (bounds : PoolBounds) (token : List Char) : String → Prop where
  | colon (absent : ':' ∉ token) : Flaw bounds token "expected 'min:max'"
  | low {left right : List Char} (sides : Sides token left right) (unread : ∀ n, ¬ Reads wordLimit (trim left) n) :
      Flaw bounds token s!"'{String.ofList (trim left)}' is not an integer"
  | high {left right : List Char} {low : Nat} (sides : Sides token left right) (read : Reads wordLimit (trim left) low)
      (unread : ∀ n, ¬ Reads wordLimit (trim right) n) :
      Flaw bounds token s!"'{String.ofList (trim right)}' is not an integer"
  | inverted {left right : List Char} {low high : Nat} (sides : Sides token left right)
      (read : Reads wordLimit (trim left) low) (also : Reads wordLimit (trim right) high) (less : high < low) :
      Flaw bounds token "max is smaller than min"
  | outside {left right : List Char} {low high : Nat} (sides : Sides token left right)
      (read : Reads wordLimit (trim left) low) (also : Reads wordLimit (trim right) high) (order : low ≤ high)
      (beyond : low < bounds.min ∨ bounds.max < high) :
      Flaw bounds token s!"{bounds.name} ids must lie within {bounds.min}:{bounds.max}"

theorem readBound_of_reads {side : List Char} (read : Reads wordLimit (trim side) n) : readBound token side = .ok n := by
  rw [readBound, readDecimal_eq_some.mpr read]

theorem readBound_of_unread {side : List Char} (unread : ∀ n, ¬ Reads wordLimit (trim side) n) :
    readBound token side = .error (.range (String.ofList token) s!"'{String.ofList (trim side)}' is not an integer") := by
  have none : readDecimal wordLimit (trim side) = none :=
    Option.eq_none_iff_forall_ne_some.mpr fun n read => unread n (readDecimal_eq_some.mp read)
  rw [readBound, none]

theorem readEntry_of_sides (sides : Sides token left right) : readEntry bounds token = (do
    let low ← readBound token left
    let high ← readBound token right
    if ordered : low ≤ high then
      if bounds.min ≤ low ∧ high ≤ bounds.max then .ok ⟨low, high, ordered⟩
      else .error (.range (String.ofList token) s!"{bounds.name} ids must lie within {bounds.min}:{bounds.max}")
    else .error (.range (String.ofList token) "max is smaller than min")) := by
  rw [readEntry, cut?_eq_some.mpr sides]

theorem readEntry_of_spells (spells : Spells bounds token range) : readEntry bounds token = .ok range := by
  obtain ⟨⟨left, right, sides, low, high⟩, least, most⟩ := spells
  rw [readEntry_of_sides sides, readBound_of_reads low, readBound_of_reads high]
  change (if _ : range.min ≤ range.max then _ else _) = _
  rw [dif_pos range.min_le_max, if_pos ⟨least, most⟩]

theorem readEntry_of_flaw (flaw : Flaw bounds token reason) :
    readEntry bounds token = .error (.range (String.ofList token) reason) := by
  cases flaw with
  | colon absent => rw [readEntry, cut?_eq_none.mpr absent]
  | low sides unread =>
      rw [readEntry_of_sides sides, readBound_of_unread unread]
      rfl
  | high sides read unread =>
      rw [readEntry_of_sides sides, readBound_of_reads read, readBound_of_unread unread]
      rfl
  | @inverted left right low high sides read also less =>
      rw [readEntry_of_sides sides, readBound_of_reads read, readBound_of_reads also]
      change (if _ : low ≤ high then _ else _) = _
      rw [dif_neg (Nat.not_le_of_lt less)]
  | @outside left right low high sides read also order beyond =>
      rw [readEntry_of_sides sides, readBound_of_reads read, readBound_of_reads also]
      change (if _ : low ≤ high then _ else _) = _
      rw [dif_pos order, if_neg (by omega)]

theorem spells_or_flaw (bounds : PoolBounds) (token : List Char) :
    (∃ range, Spells bounds token range) ∨ ∃ reason, Flaw bounds token reason := by
  cases found : cut? ':' token with
  | none => exact .inr ⟨_, .colon (cut?_eq_none.mp found)⟩
  | some halves =>
      obtain ⟨left, right⟩ := halves
      have sides : Sides token left right := cut?_eq_some.mp found
      by_cases lowRead : ∃ low, Reads wordLimit (trim left) low
      · obtain ⟨low, read⟩ := lowRead
        by_cases highRead : ∃ high, Reads wordLimit (trim right) high
        · obtain ⟨high, also⟩ := highRead
          rcases Nat.lt_or_ge high low with less | order
          · exact .inr ⟨_, .inverted sides read also less⟩
          · by_cases beyond : low < bounds.min ∨ bounds.max < high
            · exact .inr ⟨_, .outside sides read also order beyond⟩
            · have within : bounds.min ≤ low ∧ high ≤ bounds.max := by omega
              exact .inl ⟨⟨low, high, order⟩, ⟨left, right, sides, read, also⟩, within.1, within.2⟩
        · exact .inr ⟨_, .high sides read (not_exists.mp highRead)⟩
      · exact .inr ⟨_, .low sides (not_exists.mp lowRead)⟩

theorem readEntry_eq_ok : readEntry bounds token = .ok range ↔ Spells bounds token range := by
  refine ⟨fun read => ?_, readEntry_of_spells⟩
  rcases spells_or_flaw bounds token with ⟨other, spells⟩ | ⟨reason, flaw⟩
  · rw [readEntry_of_spells spells] at read
    cases read
    exact spells
  · rw [readEntry_of_flaw flaw] at read
    cases read

def spelled (bounds : PoolBounds) (lines : List (List Char)) : Set Nat :=
  {id | ∃ token ∈ tokens lines, ∃ range, Spells bounds token range ∧ range.min ≤ id ∧ id ≤ range.max}

theorem finite_spelled : (spelled bounds lines).Finite := by
  refine (Set.finite_le_nat wordLimit).subset ?_
  rintro id ⟨_, _, range, spells, _, high⟩
  obtain ⟨_, _, _, _, _, _, _, _, _, fits⟩ := spells.sides
  exact Nat.le_trans high fits

/-- What is reported of lines that are not read: the first entry that is wrong, or else their number. -/
inductive Refused (bounds : PoolBounds) (lines : List (List Char)) : Malformed → Prop where
  | entry {before after : List (List Char)} {token : List Char} {reason : String}
      (order : tokens lines = before ++ token :: after) (fine : ∀ earlier ∈ before, ∃ range, Spells bounds earlier range)
      (flaw : Flaw bounds token reason) : Refused bounds lines (.range (String.ofList token) reason)
  | size {set : RangeSet} (fine : ∀ token ∈ tokens lines, ∃ range, Spells bounds token range)
      (union : ∀ id, set.contains id = true ↔ id ∈ spelled bounds lines) (excess : 1000000 < (spelled bounds lines).ncard) :
      Refused bounds lines (.range (toString set)
        s!"{bounds.name} pool expands to {(spelled bounds lines).ncard} ids (limit {maxPoolSize})")

theorem covers_of_entries {ranges : List IdRange} (read : (rangeEntries lines).mapM (readEntry bounds) = .ok ranges) {id : Nat} :
    (RangeSet.ofRanges ranges).contains id = true ↔ id ∈ spelled bounds lines := by
  rw [RangeSet.contains_ofRanges]
  constructor
  · rintro ⟨range, member, within⟩
    obtain ⟨token, listed, given⟩ := (Result.mem_of_mapM read range).mp member
    exact ⟨token, rangeEntries_eq ▸ listed, range, readEntry_eq_ok.mp given, within⟩
  · rintro ⟨token, listed, range, spells, within⟩
    exact ⟨range, (Result.mem_of_mapM read range).mpr ⟨token, rangeEntries_eq ▸ listed, readEntry_of_spells spells⟩, within⟩

theorem size_of_union {set : RangeSet} (union : ∀ id, set.contains id = true ↔ id ∈ spelled bounds lines) :
    set.size = (spelled bounds lines).ncard := by
  rw [← RangeSet.ncard_eq_size]
  exact congrArg Set.ncard (Set.ext union)

theorem readRanges_of_fine (fine : ∀ token ∈ tokens lines, ∃ range, Spells bounds token range) :
    ∃ set : RangeSet, (∀ id, set.contains id = true ↔ id ∈ spelled bounds lines) ∧
      readRanges bounds lines = if (spelled bounds lines).ncard ≤ 1000000 then .ok set else
        .error (.range (toString set) s!"{bounds.name} pool expands to {(spelled bounds lines).ncard} ids (limit {maxPoolSize})") := by
  have entries : ∀ token ∈ rangeEntries lines, ∃ range, readEntry bounds token = .ok range := by
    intro token listed
    obtain ⟨range, spells⟩ := fine token (rangeEntries_eq ▸ listed)
    exact ⟨range, readEntry_of_spells spells⟩
  obtain ⟨ranges, read⟩ := Result.mapM_ok entries
  have union : ∀ id, (RangeSet.ofRanges ranges).contains id = true ↔ id ∈ spelled bounds lines :=
    fun id => covers_of_entries read
  refine ⟨.ofRanges ranges, union, ?_⟩
  rw [readRanges, read, ← size_of_union union]
  rfl

theorem readRanges_of_flaw {before after : List (List Char)} (order : tokens lines = before ++ token :: after)
    (fine : ∀ earlier ∈ before, ∃ range, Spells bounds earlier range) (flaw : Flaw bounds token reason) :
    readRanges bounds lines = .error (.range (String.ofList token) reason) := by
  have failed : (rangeEntries lines).mapM (readEntry bounds) = .error (.range (String.ofList token) reason) := by
    refine Result.mapM_eq_error.mpr ⟨before, token, after, rangeEntries_eq.trans order, fun earlier member => ?_,
      readEntry_of_flaw flaw⟩
    obtain ⟨range, spells⟩ := fine earlier member
    exact ⟨range, readEntry_of_spells spells⟩
  rw [readRanges, failed]
  rfl

theorem fine_or_flaw (bounds : PoolBounds) (entries : List (List Char)) :
    (∀ token ∈ entries, ∃ range, Spells bounds token range) ∨
      ∃ before token after reason, entries = before ++ token :: after ∧
        (∀ earlier ∈ before, ∃ range, Spells bounds earlier range) ∧ Flaw bounds token reason := by
  induction entries with
  | nil => exact .inl nofun
  | cons first rest ih =>
      rcases spells_or_flaw bounds first with spells | ⟨reason, flaw⟩
      · rcases ih with fine | ⟨before, token, after, reason, rfl, fine, flaw⟩
        · exact .inl (List.forall_mem_cons.mpr ⟨spells, fine⟩)
        · exact .inr ⟨first :: before, token, after, reason, rfl, List.forall_mem_cons.mpr ⟨spells, fine⟩, flaw⟩
      · exact .inr ⟨[], first, rest, reason, rfl, nofun, flaw⟩

theorem readRanges_eq_ok {set : RangeSet} : readRanges bounds lines = .ok set ↔
    (∀ token ∈ tokens lines, ∃ range, Spells bounds token range) ∧ (spelled bounds lines).ncard ≤ 1000000 ∧
      ∀ id, set.contains id = true ↔ id ∈ spelled bounds lines := by
  constructor
  · intro read
    rcases fine_or_flaw bounds (tokens lines) with fine | ⟨before, token, after, reason, order, earlier, flaw⟩
    · obtain ⟨other, union, given⟩ := readRanges_of_fine fine
      rw [given] at read
      split at read
      · next within =>
          cases read
          exact ⟨fine, within, union⟩
      · cases read
    · rw [readRanges_of_flaw order earlier flaw] at read
      cases read
  · rintro ⟨fine, within, union⟩
    obtain ⟨other, same, given⟩ := readRanges_of_fine fine
    rw [given, if_pos within, RangeSet.eq_of_contains fun id => (same id).trans (union id).symm]

theorem readRanges_eq_error {e : Malformed} : readRanges bounds lines = .error e ↔ Refused bounds lines e := by
  constructor
  · intro failed
    rcases fine_or_flaw bounds (tokens lines) with fine | ⟨before, token, after, reason, order, earlier, flaw⟩
    · obtain ⟨set, union, given⟩ := readRanges_of_fine fine
      rw [given] at failed
      split at failed
      · cases failed
      · next excess =>
          cases failed
          exact .size fine union (Nat.lt_of_not_le excess)
    · rw [readRanges_of_flaw order earlier flaw] at failed
      cases failed
      exact .entry order earlier flaw
  · rintro (⟨order, earlier, flaw⟩ | ⟨fine, union, excess⟩)
    · exact readRanges_of_flaw order earlier flaw
    · obtain ⟨set, same, given⟩ := readRanges_of_fine fine
      rw [given, if_neg (Nat.not_le_of_lt excess), RangeSet.eq_of_contains fun id => (same id).trans (union id).symm]

/-- Lines are read just when each entry spells a range within the bounds and these cover a million identifiers
at most. What is read covers just what they cover, in whatever order and on whatever lines the entries stand;
what is not read is reported by its first wrong entry, or by its size if none is wrong. -/
theorem reads_union_of_entries (bounds : PoolBounds) (lines : List (List Char)) :
    (spelled bounds lines).Finite ∧
    ((∃ set, readRanges bounds lines = .ok set) ↔
      (∀ token ∈ tokens lines, ∃ range, Spells bounds token range) ∧ (spelled bounds lines).ncard ≤ 1000000) ∧
    (∀ set, readRanges bounds lines = .ok set →
      (∀ id, set.contains id = true ↔ id ∈ spelled bounds lines) ∧
        ∀ others, (tokens others).Perm (tokens lines) → readRanges bounds others = .ok set) ∧
    ∀ e, readRanges bounds lines = .error e ↔ Refused bounds lines e := by
  refine ⟨finite_spelled, ⟨?_, ?_⟩, fun set read => ?_, fun e => readRanges_eq_error⟩
  · rintro ⟨set, read⟩
    obtain ⟨fine, within, _⟩ := readRanges_eq_ok.mp read
    exact ⟨fine, within⟩
  · rintro ⟨fine, within⟩
    obtain ⟨set, _, given⟩ := readRanges_of_fine fine
    exact ⟨set, given.trans (if_pos within)⟩
  · obtain ⟨fine, within, union⟩ := readRanges_eq_ok.mp read
    refine ⟨union, fun others shuffled => ?_⟩
    have same : spelled bounds others = spelled bounds lines := by
      ext id
      exact exists_congr fun token => and_congr_left fun _ => shuffled.mem_iff
    rw [readRanges_eq_ok, same]
    exact ⟨fun token member => fine token (shuffled.mem_iff.mp member), within, union⟩

theorem reads_union_of_touching_entries :
    let lines := ["105:120, 100:109".toList, " 90 :\u00a0+099,,".toList]
    let others := [" 100:109 ,90 :\u00a0+099".toList, [], "105:120".toList]
    let set : RangeSet := { ranges := [⟨90, 120, by decide⟩] }
    readRanges .borderVlan lines = .ok set ∧ readRanges .borderVlan others = .ok set ∧
      Refused .borderVlan ["100:200, 4000:4095,20:10".toList]
        (.range "4000:4095" "border_vlan ids must lie within 1:4094") := by
  intro lines others set
  have entries : (rangeEntries lines).mapM (readEntry .borderVlan) =
      .ok [⟨105, 120, by decide⟩, ⟨100, 109, by decide⟩, ⟨90, 99, by decide⟩] := by decide +kernel
  have joined : RangeSet.ofRanges [⟨105, 120, by decide⟩, ⟨100, 109, by decide⟩, ⟨90, 99, by decide⟩] = set := by
    refine RangeSet.eq_of_contains fun id => ?_
    rw [RangeSet.contains_ofRanges, RangeSet.contains_iff]
    simp only [Covers, set, List.exists_mem_cons_iff, List.not_mem_nil, false_and, exists_false, or_false]
    omega
  have read : readRanges .borderVlan lines = .ok set := by
    rw [readRanges, entries]
    change (if (RangeSet.ofRanges _).size ≤ maxPoolSize then Except.ok (RangeSet.ofRanges _) else _) = _
    rw [joined]
    rfl
  have shuffled : (tokens others).Perm (tokens lines) := by decide +kernel
  refine ⟨read, ((reads_union_of_entries .borderVlan lines).2.2.1 set read).2 others shuffled, ?_⟩
  exact ((reads_union_of_entries .borderVlan _).2.2.2 _).mp (by decide +kernel)

end OverlayFabric
