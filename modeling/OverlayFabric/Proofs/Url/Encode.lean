import OverlayFabric.Proofs.Text.Word
import OverlayFabric.Url.Encode
import Mathlib.Data.List.Infix

namespace OverlayFabric.Url
open Number

variable {cs rest : List Char} {c : Char} {keep : Char → Bool}

def bytes (cs : List Char) : List UInt8 := cs.flatMap String.utf8EncodeChar

def beginsEscape : List Char → Bool
  | '%' :: high :: low :: _ => isDigitOf 16 high && isDigitOf 16 low
  | _ => false

def Unescaped (cs : List Char) : Prop := ∀ tail ∈ cs.tails, beginsEscape tail = false

instance : Decidable (Unescaped cs) := inferInstanceAs (Decidable (∀ tail ∈ cs.tails, beginsEscape tail = false))

theorem unescaped_nil : Unescaped [] := by decide

theorem unescaped_cons : Unescaped (c :: rest) ↔ beginsEscape (c :: rest) = false ∧ Unescaped rest := by
  simp [Unescaped]

/-! ## Decoding -/

theorem valueOf_pair {high low : Char} :
    (valueOf 16 [high, low]).isSome = (isDigitOf 16 high && isDigitOf 16 low) := by
  simp only [valueOf, List.isEmpty_cons, Bool.false_eq_true, if_false, valueFrom, isDigitOf]
  cases digitValue? 16 high with
  | none => rfl
  | some d => cases digitValue? 16 low <;> rfl

theorem beginsEscape_eq_true : beginsEscape cs = true ↔
    ∃ high low rest value, cs = '%' :: high :: low :: rest ∧ valueOf 16 [high, low] = some value := by
  unfold beginsEscape
  split
  · next high low rest =>
      rw [← valueOf_pair, Option.isSome_iff_exists]
      constructor
      · rintro ⟨value, digits⟩
        exact ⟨high, low, rest, value, rfl, digits⟩
      · rintro ⟨_, _, _, value, same, digits⟩
        cases same
        exact ⟨value, digits⟩
  · next other =>
      refine iff_of_false Bool.false_ne_true ?_
      rintro ⟨high, low, rest, _, same, _⟩
      exact other high low rest same

theorem percentDecode_escape {high low : Char} {value : Nat} (digits : valueOf 16 [high, low] = some value) :
    percentDecode ('%' :: high :: low :: rest) = value.toUInt8 :: percentDecode rest := by
  rw [percentDecode]
  simp only [digits]

theorem percentDecode_plain (plain : beginsEscape (c :: rest) = false) :
    percentDecode (c :: rest) = String.utf8EncodeChar c ++ percentDecode rest := by
  rw [percentDecode.eq_def]
  split
  · next absurd => cases absurd
  · next high low others same =>
      cases same
      rw [beginsEscape, ← valueOf_pair, Option.isSome_eq_false_iff, Option.isNone_iff_eq_none] at plain
      rw [plain]
      rfl
  · next same =>
      cases same
      rfl

theorem length_bytes_cons : (bytes (c :: rest)).length = c.utf8Size + (bytes rest).length := by
  rw [bytes, List.flatMap_cons, List.length_append, String.length_utf8EncodeChar, bytes]

theorem length_percentDecode_le : (percentDecode cs).length ≤ (bytes cs).length := by
  fun_induction percentDecode cs with
  | case1 => rfl
  | case2 high low rest value digits ih =>
      simp only [length_bytes_cons, List.length_cons]
      have := Char.utf8Size_pos '%'
      omega
  | case3 high low rest none ih =>
      rw [length_bytes_cons, List.length_cons]
      have := Char.utf8Size_pos '%'
      omega
  | case4 c rest _ ih =>
      rw [length_bytes_cons, List.length_append, String.length_utf8EncodeChar]
      omega

theorem percentDecode_eq_bytes : percentDecode cs = bytes cs ↔ Unescaped cs := by
  induction cs with
  | nil => simp [percentDecode, bytes, unescaped_nil]
  | cons c rest ih =>
      rw [unescaped_cons]
      cases escaped : beginsEscape (c :: rest) with
      | false =>
          rw [percentDecode_plain escaped, bytes, List.flatMap_cons, List.append_cancel_left_eq, ← bytes, ih]
          simp
      | true =>
          simp only [Bool.true_eq_false, false_and, iff_false]
          intro same
          obtain ⟨high, low, others, value, text, digits⟩ := beginsEscape_eq_true.mp escaped
          rw [text, percentDecode_escape digits] at same
          have lengths := congrArg List.length same
          have := @length_percentDecode_le others
          have := Char.utf8Size_pos '%'
          have := Char.utf8Size_pos high
          simp only [length_bytes_cons, List.length_cons] at lengths
          omega

/-! ## Encoding -/

theorem digitValue?_upperDigit {n : Nat} (small : n < 16) : digitValue? 16 (upperDigit n) = some n := by
  have all : ∀ k < 16, digitValue? 16 (upperDigit k) = some k := by decide
  exact all n small

theorem percentDecode_percent (byte : UInt8) : percentDecode (percent byte ++ rest) = byte :: percentDecode rest := by
  have small : byte.toNat < 256 := byte.toNat_lt
  have digits : valueOf 16 [upperDigit (byte.toNat / 16), upperDigit (byte.toNat % 16)] = some byte.toNat := by
    simp only [valueOf, List.isEmpty_cons, Bool.false_eq_true, if_false, valueFrom,
      digitValue?_upperDigit (show byte.toNat / 16 < 16 by omega), digitValue?_upperDigit (show byte.toNat % 16 < 16 by omega),
      Option.bind_some, Option.some.injEq]
    omega
  rw [percent, List.cons_append, List.cons_append, List.cons_append, List.nil_append, percentDecode_escape digits,
    Nat.toUInt8_eq, UInt8.ofNat_toNat]

theorem percentDecode_percents (sequence : List UInt8) :
    percentDecode (sequence.flatMap percent ++ rest) = sequence ++ percentDecode rest := by
  induction sequence with
  | nil => rfl
  | cons byte others ih => rw [List.flatMap_cons, List.append_assoc, percentDecode_percent, ih, List.cons_append]

def KeepsEscapes (keep : Char → Bool) : Prop := keep '%' = true ∧ ∀ c, isDigitOf 16 c = true → keep c = true

theorem keepsEscapes_inPath : KeepsEscapes keepsInPath := by
  refine ⟨by decide, fun c digit => ?_⟩
  obtain ⟨d, value⟩ := Option.isSome_iff_exists.mp digit
  obtain ⟨small, rfl | rfl⟩ := digitValue?_sixteen.mp value
  · have all : ∀ k < 16, keepsInPath (Nat.digitChar k) = true := by decide
    exact all d small
  · have all : ∀ k < 16, keepsInPath (Nat.digitChar k).toUpper = true := by decide
    exact all d small

theorem encodeWith_cons : encodeWith keep (c :: rest) = encodeChar keep c ++ encodeWith keep rest := List.flatMap_cons

theorem eq_cons_of_encodeWith {digit : Char} {written : List Char} (isDigit : isDigitOf 16 digit = true)
    (encoded : encodeWith keep cs = digit :: written) : ∃ rest, cs = digit :: rest ∧ encodeWith keep rest = written := by
  cases cs with
  | nil => cases encoded
  | cons c rest =>
      rw [encodeWith_cons, encodeChar] at encoded
      split at encoded
      · cases encoded
        exact ⟨rest, rfl, rfl⟩
      · cases sequence : String.utf8EncodeChar c with
        | nil => exact absurd sequence String.utf8EncodeChar_ne_nil
        | cons byte others =>
            rw [sequence] at encoded
            cases encoded
            exact absurd isDigit (by decide)

theorem beginsEscape_encodeWith (plain : beginsEscape ('%' :: rest) = false) :
    beginsEscape ('%' :: encodeWith keep rest) = false := by
  refine Bool.eq_false_iff.mpr fun escaped => Bool.eq_false_iff.mp plain ?_
  obtain ⟨high, low, others, value, same, digits⟩ := beginsEscape_eq_true.mp escaped
  have both := @valueOf_pair high low
  rw [digits, Option.isSome_some, eq_comm, Bool.and_eq_true] at both
  obtain ⟨tail, rfl, following⟩ := eq_cons_of_encodeWith both.1 (List.cons.inj same).2
  obtain ⟨tail, rfl, -⟩ := eq_cons_of_encodeWith both.2 following
  exact beginsEscape_eq_true.mpr ⟨high, low, tail, value, rfl, digits⟩

theorem percentDecode_encodeChar (plain : beginsEscape (c :: rest) = false) :
    percentDecode (encodeWith keep (c :: rest)) = String.utf8EncodeChar c ++ percentDecode (encodeWith keep rest) := by
  rw [encodeWith_cons, encodeChar]
  split
  · refine percentDecode_plain ?_
    by_cases sign : c = '%'
    · rw [sign] at plain ⊢
      exact beginsEscape_encodeWith plain
    · simp [beginsEscape, sign]
  · exact percentDecode_percents _

theorem percentDecode_encodeWith (keeps : KeepsEscapes keep) : percentDecode (encodeWith keep cs) = percentDecode cs := by
  fun_induction percentDecode cs with
  | case1 => rfl
  | case2 high low rest value digits ih =>
      have both := @valueOf_pair high low
      rw [digits, Option.isSome_some, eq_comm, Bool.and_eq_true] at both
      simp only [encodeWith_cons, encodeChar, keeps.1, keeps.2 high both.1, keeps.2 low both.2, if_true, List.cons_append,
        List.nil_append, percentDecode_escape digits, ih]
  | case3 high low rest none ih =>
      have plain : beginsEscape ('%' :: high :: low :: rest) = false := by rw [beginsEscape, ← valueOf_pair, none]; rfl
      rw [percentDecode_encodeChar plain, ih]
      rfl
  | case4 c rest other ih =>
      have plain : beginsEscape (c :: rest) = false := by
        refine Bool.eq_false_iff.mpr fun escaped => ?_
        obtain ⟨high, low, others, _, same, _⟩ := beginsEscape_eq_true.mp escaped
        exact other high low others (List.cons.inj same).1 (List.cons.inj same).2
      rw [percentDecode_encodeChar plain, ih]

end OverlayFabric.Url
