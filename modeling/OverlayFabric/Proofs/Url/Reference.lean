import OverlayFabric.Proofs.Url.Path

namespace OverlayFabric.Url
open Text

variable {cs others last : List Char} {c d : Char}

/-- The characters that end a segment, the path or nothing at all, but do not stand for themselves. -/
def pathMarks : List Char := ['/', '\\', '?', '#', '\t', '\n', '\r']

structure Plain (cs : List Char) : Prop where
  unmarked : ∀ c ∈ cs, c ∉ pathMarks
  undotted : cs ≠ ['.'] ∧ cs ≠ ['.', '.']
  unescaped : Unescaped cs

theorem unmarked_iff : cs.all (fun c => !pathMarks.contains c) = true ↔ ∀ c ∈ cs, c ∉ pathMarks := by
  simp

instance : Decidable (Plain cs) :=
  decidable_of_iff (cs.all (fun c => !pathMarks.contains c) = true ∧ (cs ≠ ['.'] ∧ cs ≠ ['.', '.']) ∧ Unescaped cs)
    ⟨fun ⟨unmarked, undotted, unescaped⟩ => ⟨unmarked_iff.mp unmarked, undotted, unescaped⟩,
      fun ⟨unmarked, undotted, unescaped⟩ => ⟨unmarked_iff.mpr unmarked, undotted, unescaped⟩⟩

structure Ordinary (name : List Char) : Prop where
  closed : ∃ front last, name = front ++ [last] ∧ isEdge last = false
  unmarked : ∀ c ∈ name, c ∉ pathMarks
  undotted : isDots name = false
  kept : encodeWith keepsInPath name = name

/-! ## Cleaning -/

theorem dropBreaks_append : dropBreaks (cs ++ others) = dropBreaks cs ++ dropBreaks others := List.filter_append cs others

theorem dropBreaks_eq_self (unbroken : ∀ c ∈ cs, isBreak c = false) : dropBreaks cs = cs :=
  List.filter_eq_self.mpr fun c member => by rw [unbroken c member]; rfl

theorem length_dropBreaks_le : (bytes (dropBreaks cs)).length + cs.countP isBreak ≤ (bytes cs).length := by
  induction cs with
  | nil => rfl
  | cons c rest ih =>
      have := c.utf8Size_pos
      cases broken : isBreak c with
      | true =>
          rw [List.countP_cons_of_pos broken, dropBreaks, List.filter_cons_of_neg (by simp [broken]), ← dropBreaks,
            length_bytes_cons]
          omega
      | false =>
          rw [List.countP_cons_of_neg (by simp [broken]), dropBreaks, List.filter_cons_of_pos (by simp [broken]),
            ← dropBreaks, length_bytes_cons, length_bytes_cons]
          omega

theorem trimEdges_of_bare {first final : Char} (left : isEdge first = false) (right : isEdge final = false) :
    trimEdges (first :: cs ++ [final]) = first :: cs ++ [final] := by
  simp [trimEdges, left, right]

/-! ## Slashes -/

theorem slashes_append {special : Bool} : slashes special (cs ++ others) = slashes special cs ++ slashes special others := by
  cases special
  · rfl
  · exact List.map_append

theorem length_slashes : (bytes (slashes true cs)).length = (bytes cs).length := by
  induction cs with
  | nil => rfl
  | cons c rest ih =>
      have head : slashes true (c :: rest) = (if c = '\\' then '/' else c) :: slashes true rest := rfl
      rw [head, length_bytes_cons, length_bytes_cons, ih]
      split
      · next backslash => rw [backslash]; rfl
      · rfl

theorem slashes_eq_self (absent : '\\' ∉ cs) : slashes true cs = cs := by
  refine (List.map_congr_left fun c member => if_neg ?_).trans (List.map_id cs)
  rintro rfl
  exact absent member

theorem slash_mem_slashes : '/' ∈ slashes true cs ↔ '/' ∈ cs ∨ '\\' ∈ cs := by
  have turned (c : Char) : (if c = '\\' then '/' else c) = '/' ↔ c = '\\' ∨ c = '/' := by split <;> simp_all
  simp only [slashes, if_true, List.mem_map, turned]
  constructor
  · rintro ⟨c, member, rfl | rfl⟩
    · exact .inr member
    · exact .inl member
  · rintro (slash | backslash)
    · exact ⟨_, slash, .inr rfl⟩
    · exact ⟨_, backslash, .inl rfl⟩

/-! ## Queries and fragments -/

theorem cutOff_of_absent (absent : c ∉ cs) : cutOff c cs = (cs, none) := by
  rw [cutOff, cut?_eq_none.mpr absent]

theorem isSome_cutOff (present : c ∈ cs) : (cutOff c cs).2.isSome = true := by
  unfold cutOff
  split
  · rfl
  · next none => exact absurd present (cut?_eq_none.mp none)

theorem pieces_of_bare (hash : '#' ∉ cs) (mark : '?' ∉ cs) : Pieces.of cs = ⟨cs, none, none⟩ := by
  rw [Pieces.of, cutOff_of_absent hash]
  simp only
  rw [cutOff_of_absent mark]

theorem pieces_bare_iff : ((Pieces.of cs).query = none ∧ (Pieces.of cs).fragment = none) ↔ '#' ∉ cs ∧ '?' ∉ cs := by
  constructor
  · rintro ⟨query, fragment⟩
    have hash : '#' ∉ cs := by
      intro present
      have cut := isSome_cutOff present
      rw [show (cutOff '#' cs).2 = none from fragment] at cut
      cases cut
    refine ⟨hash, fun present => ?_⟩
    have cut := isSome_cutOff present
    rw [Pieces.of, cutOff_of_absent hash] at query
    rw [show (cutOff '?' cs).2 = none from query] at cut
    cases cut
  · rintro ⟨hash, mark⟩
    rw [pieces_of_bare hash mark]
    exact ⟨rfl, rfl⟩

/-! ## Marks and dots -/

theorem Ordinary.not_mem (ordinary : Ordinary cs) (mark : c ∈ pathMarks) : c ∉ cs :=
  fun member => ordinary.unmarked c member mark

theorem Plain.not_mem (plain : Plain cs) (mark : c ∈ pathMarks) : c ∉ cs := fun member => plain.unmarked c member mark

theorem isBreak_iff : isBreak c = true ↔ c ∈ ['\t', '\n', '\r'] := by
  simp [isBreak, or_assoc]

theorem isBreak_of_unmarked (unmarked : ∀ c ∈ cs, c ∉ pathMarks) : ∀ c ∈ cs, isBreak c = false := by
  intro c member
  refine Bool.eq_false_iff.mpr fun broken => unmarked c member ?_
  exact List.mem_append_right ['/', '\\', '?', '#'] (isBreak_iff.mp broken)

theorem toLower_eq : c.toLower = c ∨ 65 ≤ c.toNat ∧ c.toNat ≤ 90 ∧ c.toLower.toNat = c.toNat + 32 := by
  unfold Char.toLower
  split
  · next upper =>
      have least : 65 ≤ c.toNat := UInt32.le_iff_toNat_le.mp upper.1
      have most : c.toNat ≤ 90 := UInt32.le_iff_toNat_le.mp upper.2
      refine .inr ⟨least, most, ?_⟩
      change (c.val + 32).toNat = c.val.toNat + 32
      change c.val.toNat ≤ 90 at most
      rw [UInt32.toNat_add]
      change (c.val.toNat + 32) % 4294967296 = _
      omega
  · exact .inl rfl

theorem eq_of_toLower (lower : c.toLower = d) (small : d.toNat < 97) : c = d := by
  rcases @toLower_eq c with same | ⟨_, _, code⟩
  · exact same.symm.trans lower
  · rw [lower] at code
    omega

theorem isDigitOf_of_toLower (lower : c.toLower = 'e') : Number.isDigitOf 16 c = true := by
  rcases @toLower_eq c with same | ⟨_, _, code⟩
  · rw [← same, lower]
    decide
  · have upper : c = 'E' := by
      rw [lower] at code
      exact Char.toNat_inj.mp (Nat.add_right_cancel code.symm)
    rw [upper]
    decide

theorem not_unescaped_of_dot {before after : List Char} (lower : lowerAscii cs = before ++ "%2e".toList ++ after) :
    ¬ Unescaped cs := by
  rw [lowerAscii, List.append_assoc] at lower
  obtain ⟨_, tail, rfl, _, written⟩ := List.map_eq_append_iff.mp lower
  obtain ⟨sign, tail, rfl, isSign, written⟩ := List.map_eq_cons_iff.mp written
  obtain ⟨high, tail, rfl, isHigh, written⟩ := List.map_eq_cons_iff.mp written
  obtain ⟨low, tail, rfl, isLow, _⟩ := List.map_eq_cons_iff.mp written
  rw [eq_of_toLower isSign (by decide), eq_of_toLower isHigh (by decide)]
  intro unescaped
  have begins := unescaped ('%' :: '2' :: low :: tail) ((List.mem_tails _ _).mpr (List.suffix_append _ _))
  rw [beginsEscape, isDigitOf_of_toLower isLow] at begins
  exact absurd begins (by decide)

theorem eq_dots (dots : isDots cs = true) (unescaped : Unescaped cs) : cs = ['.'] ∨ cs = ['.', '.'] := by
  have dot {c : Char} (lower : c.toLower = '.') : c = '.' := eq_of_toLower lower (by decide)
  simp only [isDots, isDoubleDot, isSingleDot, List.any_cons, List.any_nil, Bool.or_false, Bool.or_eq_true, beq_iff_eq,
    @eq_comm _ _ (lowerAscii cs)] at dots
  rcases dots with (double | first | second | both) | single | escaped
  · obtain ⟨_, _, rfl, one, rest⟩ := List.map_eq_cons_iff.mp double
    obtain ⟨_, _, rfl, two, rest⟩ := List.map_eq_cons_iff.mp rest
    rw [List.map_eq_nil_iff.mp rest, dot one, dot two]
    exact .inr rfl
  · exact absurd unescaped (@not_unescaped_of_dot cs ['.'] [] first)
  · exact absurd unescaped (@not_unescaped_of_dot cs [] ['.'] second)
  · exact absurd unescaped (@not_unescaped_of_dot cs [] "%2e".toList both)
  · obtain ⟨_, _, rfl, one, rest⟩ := List.map_eq_cons_iff.mp single
    rw [List.map_eq_nil_iff.mp rest, dot one]
    exact .inl rfl
  · exact absurd unescaped (@not_unescaped_of_dot cs [] [] escaped)

end OverlayFabric.Url
