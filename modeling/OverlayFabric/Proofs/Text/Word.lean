import Mathlib.Data.List.DropRight
import Mathlib.Data.List.Forall2
import Mathlib.Tactic.SplitIfs
import OverlayFabric.Number.Radix
import OverlayFabric.Text.Blank

namespace OverlayFabric

namespace Text

variable {separator : Char} {text left right : List Char}

theorem pieces_eq_splitOn : pieces separator text = text.splitOn separator := by
  induction text with
  | nil => rfl
  | cons c rest ih =>
      rw [List.splitOn_cons_eq_if_modifyHead, ← ih, pieces]
      simp only [beq_iff_eq]
      split
      · rfl
      · cases parts : pieces separator rest with
        | nil => exact absurd parts (pieces_ne_nil separator rest)
        | cons piece others => rfl

theorem cut?_eq_none : cut? separator text = none ↔ separator ∉ text := by
  induction text with
  | nil => simp [cut?]
  | cons c rest ih =>
      by_cases here : c = separator
      · simp [cut?, here]
      · simp [cut?, here, ih, Ne.symm here]

theorem cut?_eq_some : cut? separator text = some (left, right) ↔ text = left ++ separator :: right ∧ separator ∉ left := by
  induction text generalizing left with
  | nil => simp [cut?]
  | cons c rest ih =>
      by_cases here : c = separator
      · subst here
        cases left with
        | nil => simp [cut?]
        | cons first others => simp +contextual [cut?]
      · cases left with
        | nil => simp [cut?, here]
        | cons first others =>
            simp only [cut?, if_neg here, Option.map_eq_some_iff, Prod.mk.injEq, Prod.exists, List.cons.injEq,
              List.cons_append, List.mem_cons, not_or]
            constructor
            · rintro ⟨before, after, found, ⟨rfl, rfl⟩, rfl⟩
              obtain ⟨rfl, absent⟩ := ih.mp found
              exact ⟨⟨rfl, rfl⟩, Ne.symm here, absent⟩
            · rintro ⟨⟨rfl, rfl⟩, _, absent⟩
              exact ⟨others, right, ih.mpr ⟨rfl, absent⟩, ⟨rfl, rfl⟩, rfl⟩

theorem flatMap_splitOn {parts : List (List Char)} (filled : parts ≠ []) :
    parts.flatMap (·.splitOn separator) = ([separator].intercalate parts).splitOn separator := by
  induction parts with
  | nil => exact absurd rfl filled
  | cons first rest ih =>
      cases rest with
      | nil => simp
      | cons second others =>
          rw [List.intercalate_cons_cons, List.append_assoc, List.singleton_append, List.splitOn_append_cons_self,
            ← ih (List.cons_ne_nil second others), List.flatMap_cons]

theorem trimStart_of_bare (bare : ∀ c ∈ text, isBlank c = false) : trimStart text = text := by
  cases text with
  | nil => rfl
  | cons c rest => simp [trimStart, bare c (.head _)]

theorem trim_of_bare (bare : ∀ c ∈ text, isBlank c = false) : trim text = text := by
  have backwards : ∀ c ∈ text.reverse, isBlank c = false := fun c member => bare c (List.mem_reverse.mp member)
  rw [trim, trimStart_of_bare bare, trimStart_of_bare backwards, List.reverse_reverse]

theorem trim_eq_nil : trim text = [] ↔ ∀ c ∈ text, isBlank c = true := by
  rw [trim, List.reverse_eq_nil_iff, trimStart, trimStart, List.dropWhile_eq_nil_iff]
  constructor
  · intro blank
    have left : (text.dropWhile isBlank).dropWhile isBlank = [] :=
      List.dropWhile_eq_nil_iff.mpr fun c member => blank c (List.mem_reverse.mpr member)
    rw [List.dropWhile_idempotent] at left
    exact List.dropWhile_eq_nil_iff.mp left
  · intro blank c member
    exact blank c (List.dropWhile_subset _ (List.mem_reverse.mp member))

end Text

namespace Number

variable {text digits : List Char} {c : Char} {n acc limit : Nat}

def Reads (limit : Nat) (text : List Char) (n : Nat) : Prop :=
  ∃ digits, (text = digits ∨ text = '+' :: digits) ∧ digits ≠ [] ∧ (∀ c ∈ digits, c.isDigit = true) ∧
    n = Nat.ofDigitChars 10 digits 0 ∧ n ≤ limit

theorem isDigit_iff : c.isDigit = true ↔ 48 ≤ c.toNat ∧ c.toNat ≤ 57 := by
  simp only [Char.isDigit, Bool.and_eq_true, decide_eq_true_eq, UInt32.le_iff_toNat_le]
  rfl

theorem digitValue?_ten : digitValue? 10 c = if c.isDigit = true then some (c.toNat - 48) else none := by
  unfold digitValue?
  simp only [isDigit_iff, Bool.and_eq_true, decide_eq_true_eq]
  split_ifs <;> first | rfl | omega

theorem valueFrom_eq_some : valueFrom 10 acc digits = some n ↔
    (∀ c ∈ digits, c.isDigit = true) ∧ n = Nat.ofDigitChars 10 digits acc := by
  induction digits generalizing acc with
  | nil => simp only [valueFrom, Nat.ofDigitChars_nil, Option.some.injEq, List.not_mem_nil, false_implies, implies_true,
      true_and, eq_comm]
  | cons c rest ih =>
      rw [valueFrom, digitValue?_ten, Nat.ofDigitChars_cons, List.forall_mem_cons]
      by_cases isDigit : c.isDigit = true
      · rw [if_pos isDigit, Option.bind_some, ih, Nat.mul_comm]
        exact and_congr_left fun _ => (and_iff_right isDigit).symm
      · rw [if_neg isDigit]
        refine iff_of_false (fun read => ?_) fun both => isDigit both.1.1
        cases read

theorem valueOf_eq_some : valueOf 10 digits = some n ↔
    digits ≠ [] ∧ (∀ c ∈ digits, c.isDigit = true) ∧ n = Nat.ofDigitChars 10 digits 0 := by
  cases digits with
  | nil => simp [valueOf]
  | cons c rest =>
      rw [valueOf, if_neg (by simp), valueFrom_eq_some]
      exact (and_iff_right (List.cons_ne_nil c rest)).symm

theorem readDecimal_eq_some : readDecimal limit text = some n ↔ Reads limit text n := by
  have unsigned {digits : List Char} : (valueOf 10 digits).filter (· ≤ limit) = some n ↔
      digits ≠ [] ∧ (∀ c ∈ digits, c.isDigit = true) ∧ n = Nat.ofDigitChars 10 digits 0 ∧ n ≤ limit := by
    rw [Option.filter_eq_some_iff, valueOf_eq_some, decide_eq_true_eq, and_assoc, and_assoc]
  unfold readDecimal
  simp only
  split
  · next digits =>
      rw [unsigned]
      constructor
      · exact fun read => ⟨digits, .inr rfl, read⟩
      · rintro ⟨others, rfl | same, filled, numeric, rest⟩
        · exact absurd (numeric '+' (.head _)) (by decide)
        · cases same
          exact ⟨filled, numeric, rest⟩
  · next bare =>
      rw [unsigned]
      constructor
      · exact fun read => ⟨text, .inl rfl, read⟩
      · rintro ⟨digits, rfl | rfl, read⟩
        · exact read
        · exact absurd rfl (bare digits)

theorem isBlank_of_isDigit (digit : c.isDigit = true) : Text.isBlank c = false := by
  have := isDigit_iff.mp digit
  simp only [Text.isBlank, Bool.or_eq_false_iff, Bool.and_eq_false_iff, decide_eq_false_iff_not, beq_eq_false_iff_ne]
  omega

theorem digitChar_eq (small : n < 16) : digitChar n = Nat.digitChar n := by
  have all : ∀ k < 16, digitChar k = Nat.digitChar k := by decide
  exact all n small

theorem numeral_eq_toDigits {radix : Nat} (least : 2 ≤ radix) (most : radix ≤ 16) :
    numeral radix n = Nat.toDigits radix n := by
  fun_induction numeral radix n with
  | case1 n last =>
      have small : n < radix := by omega
      rw [Nat.toDigits_of_lt_base small, digitChar_eq (by omega)]
  | case2 n more ih =>
      have small : n % radix < radix := Nat.mod_lt _ (by omega)
      have whole : Nat.toDigits radix n = Nat.toDigits radix (n / radix) ++ [Nat.digitChar (n % radix)] :=
        Nat.toDigits_of_base_le (by omega) (by omega)
      rw [ih, whole, digitChar_eq (by omega)]

theorem decimal_eq_toDigits : decimal n = Nat.toDigits 10 n := numeral_eq_toDigits (by decide) (by decide)

theorem isDigit_of_mem_decimal (member : c ∈ decimal n) : c.isDigit = true := by
  rw [decimal_eq_toDigits] at member
  exact Nat.isDigit_of_mem_toDigits (by decide) (by decide) member

theorem reads_decimal (fits : n ≤ limit) : Reads limit (decimal n) n := by
  obtain ⟨filled, numeric, value⟩ := valueOf_eq_some.mp (valueOf_decimal n)
  exact ⟨decimal n, .inl rfl, filled, numeric, value, fits⟩

def HexDigit (c : Char) (d : Nat) : Prop := d < 16 ∧ (c = Nat.digitChar d ∨ c = (Nat.digitChar d).toUpper)

def HexReads (text : List Char) (n : Nat) : Prop :=
  text ≠ [] ∧ ∃ digits, List.Forall₂ HexDigit text digits ∧ n = digits.foldl (16 * · + ·) 0

theorem hexDigit_iff {d : Nat} : HexDigit c d ↔
    d < 16 ∧ (c.toNat = (if d < 10 then 48 else 87) + d ∨ c.toNat = (if d < 10 then 48 else 55) + d) := by
  have codes : ∀ k < 16, (Nat.digitChar k).toNat = (if k < 10 then 48 else 87) + k ∧
      (Nat.digitChar k).toUpper.toNat = (if k < 10 then 48 else 55) + k := by decide
  refine and_congr_right fun small => ?_
  rw [← (codes d small).1, ← (codes d small).2, Char.toNat_inj, Char.toNat_inj]

theorem digitValue?_sixteen {d : Nat} : digitValue? 16 c = some d ↔ HexDigit c d := by
  rw [hexDigit_iff]
  unfold digitValue?
  simp only [Bool.and_eq_true, decide_eq_true_eq]
  grind

theorem valueFrom_sixteen : valueFrom 16 acc text = some n ↔
    ∃ digits, List.Forall₂ HexDigit text digits ∧ n = digits.foldl (16 * · + ·) acc := by
  induction text generalizing acc with
  | nil => simp [valueFrom, eq_comm]
  | cons c rest ih =>
      rw [valueFrom, Option.bind_eq_some_iff]
      constructor
      · rintro ⟨d, digit, read⟩
        obtain ⟨digits, spelled, value⟩ := ih.mp read
        exact ⟨d :: digits, .cons (digitValue?_sixteen.mp digit) spelled, by rw [value, List.foldl_cons, Nat.mul_comm]⟩
      · rintro ⟨digits, spelled, value⟩
        cases spelled with
        | @cons _ d _ others digit spelled =>
            refine ⟨d, digitValue?_sixteen.mpr digit, ih.mpr ⟨others, spelled, ?_⟩⟩
            rw [value, List.foldl_cons, Nat.mul_comm]

theorem valueOf_sixteen : valueOf 16 text = some n ↔ HexReads text n := by
  unfold valueOf HexReads
  cases text with
  | nil => simp
  | cons c rest =>
      rw [if_neg (by simp), valueFrom_sixteen]
      exact (and_iff_right (List.cons_ne_nil c rest)).symm

theorem hexReads_toDigits : HexReads (Nat.toDigits 16 n) n := by
  refine ⟨Nat.toDigits_ne_nil, ?_⟩
  induction n using Nat.base_induction 16 (by decide) with
  | single n small =>
      rw [Nat.toDigits_of_lt_base small]
      exact ⟨[n], .cons ⟨small, .inl rfl⟩ .nil, by simp⟩
  | digit n d small pos ih =>
      obtain ⟨digits, spelled, value⟩ := ih
      rw [← Nat.toDigits_append_toDigits (by decide) pos small, Nat.toDigits_of_lt_base small]
      refine ⟨digits ++ [d], List.rel_append spelled (.cons ⟨small, .inl rfl⟩ .nil), ?_⟩
      rw [List.foldl_append, ← value]
      rfl

theorem toDigits_ofDigitChars (filled : digits ≠ []) (numeric : ∀ c ∈ digits, c.isDigit = true)
    (bare : digits.head? = some '0' → digits.length = 1) : Nat.toDigits 10 (Nat.ofDigitChars 10 digits 0) = digits := by
  induction digits using List.reverseRecOn with
  | nil => exact absurd rfl filled
  | append_singleton front c ih =>
      have code := isDigit_iff.mp (numeric c (by simp))
      have last : Nat.digitChar (c.toNat - 48) = c := by
        rw [← Char.toNat_inj, Nat.toNat_digitChar_of_lt_ten (by omega)]
        omega
      have unit : Nat.toDigits 10 (c.toNat - 48) = [c] := by rw [Nat.toDigits_of_lt_base (by omega), last]
      have value : Nat.ofDigitChars 10 (front ++ [c]) 0 = 10 * Nat.ofDigitChars 10 front 0 + (c.toNat - 48) := by
        rw [Nat.ofDigitChars_append, Nat.ofDigitChars_cons, Nat.ofDigitChars_nil]
        rfl
      rw [value]
      by_cases alone : front = []
      · rw [alone, Nat.ofDigitChars_nil, Nat.mul_zero, Nat.zero_add, unit, List.nil_append]
      · have leading : front.head? ≠ some '0' := by
          intro zero
          have short := bare (by rw [List.head?_append_of_ne_nil _ alone, zero])
          rw [List.length_append, List.length_singleton] at short
          exact alone (List.length_eq_zero_iff.mp (by omega))
        have written := ih alone (fun d member => numeric d (List.mem_append_left _ member)) fun zero => absurd zero leading
        have pos : 0 < Nat.ofDigitChars 10 front 0 := by
          refine Nat.pos_of_ne_zero fun zero => leading ?_
          rw [← written, zero]
          rfl
        rw [← Nat.toDigits_append_toDigits (by decide) pos (by omega), written, unit]

theorem head_toDigits (zero : (Nat.toDigits 10 n).head? = some '0') : n = 0 := by
  induction n using Nat.base_induction 10 (by decide) with
  | single n small =>
      rw [Nat.toDigits_of_lt_base small] at zero
      simpa using zero
  | digit n d small pos ih =>
      rw [← Nat.toDigits_append_toDigits (by decide) pos small, List.head?_append_of_ne_nil _ Nat.toDigits_ne_nil] at zero
      exact absurd (ih zero) (Nat.ne_of_gt pos)

end Number

end OverlayFabric
