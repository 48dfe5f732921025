import OverlayFabric.Address
import OverlayFabric.Proofs.Text.Word

/-!
Which texts are addresses. Dotted notation is four decimal numbers without leading zeros. Colon notation is
eight groups of one to four hexadecimal digits, the last two of which may stand in dotted notation, and once a
pair of colons may stand for groups of zeros. The reader accepts these texts and no others.
-/

namespace OverlayFabric
open Number

namespace Address

variable {cs text rest digits : List Char} {c : Char} {radix most value room : Nat} {padded first ending : Bool}
  {octet : Fin 256} {group : Fin 65536} {groups : List (Fin 65536)} {dotted : AddressV4} {colons : AddressV6}
  {address : Address}

def quad (address : AddressV4) : List Char :=
  ['.'].intercalate ([address.a, address.b, address.c, address.d].map (Nat.toDigits 10 ·.val))

def Hex (text : List Char) (group : Fin 65536) : Prop := text.length ≤ 4 ∧ HexReads text group.val

/-- Groups with colons between. The flag tells that they end in dotted notation, which stands for two. -/
inductive Groups : Bool → List Char → List (Fin 65536) → Prop where
  | last {text : List Char} {group : Fin 65536} (hex : Hex text group) : Groups false text [group]
  | dotted (address : AddressV4) : Groups true (quad address) (dottedGroups address)
  | more {ending : Bool} {text rest : List Char} {group : Fin 65536} {groups : List (Fin 65536)}
      (hex : Hex text group) (others : Groups ending rest groups) :
      Groups ending (text ++ ':' :: rest) (group :: groups)

def Side (ending : Bool) (text : List Char) (groups : List (Fin 65536)) : Prop :=
  Groups ending text groups ∨ ending = false ∧ text = [] ∧ groups = []

inductive Spells : List Char → Address → Prop where
  | quad (address : AddressV4) : Spells (quad address) (.v4 address)
  | whole {ending : Bool} {text : List Char} {address : AddressV6} (row : Groups ending text address.groups) :
      Spells text (.v6 address)
  | shortened {ending : Bool} {left right : List Char} {front back : List (Fin 65536)} {zeros : Nat}
      {address : AddressV6} (before : Side false left front) (after : Side ending right back) (some : 0 < zeros)
      (row : address.groups = front ++ List.replicate zeros 0 ++ back) :
      Spells (left ++ ':' :: ':' :: right) (.v6 address)

/-! ## Digits -/

theorem isDigitOf_ten : isDigitOf 10 c = c.isDigit := by
  rw [isDigitOf, digitValue?_ten]
  split <;> simp_all

theorem isDigitOf_of_valueFrom {acc : Nat} (read : valueFrom radix acc digits = some value) :
    ∀ c ∈ digits, isDigitOf radix c = true := by
  induction digits generalizing acc with
  | nil => simp
  | cons c rest ih =>
      rw [valueFrom, Option.bind_eq_some_iff] at read
      obtain ⟨d, digit, read⟩ := read
      rw [List.forall_mem_cons]
      exact ⟨by rw [isDigitOf, digit, Option.isSome_some], ih read⟩

theorem isDigitOf_of_valueOf (read : valueOf radix digits = some value) : ∀ c ∈ digits, isDigitOf radix c = true := by
  unfold valueOf at read
  split at read
  · cases read
  · exact isDigitOf_of_valueFrom read

/-- A number is read to its end: what is left does not begin with a digit. -/
theorem readNumber_eq_some : readNumber radix most padded cs = some (value, rest) ↔
    ∃ digits, cs = digits ++ rest ∧ valueOf radix digits = some value ∧
      (∀ c ∈ rest.head?, isDigitOf radix c = false) ∧ digits.length ≤ most ∧
      (padded = false → digits.head? = some '0' → digits.length ≤ 1) := by
  constructor
  · intro read
    unfold readNumber at read
    simp only at read
    split at read
    · cases read
    · next within =>
        simp only [Option.map_eq_some_iff, Prod.mk.injEq] at read
        obtain ⟨_, worth, rfl, rfl⟩ := read
        refine ⟨_, List.takeWhile_append_dropWhile.symm, worth, ?_, ?_⟩
        · intro c head
          have stop := List.head?_dropWhile_not (isDigitOf radix) cs
          rw [Option.mem_def.mp head] at stop
          exact stop
        · cases padded <;> grind
  · rintro ⟨digits, rfl, worth, stop, short, bare⟩
    have all := isDigitOf_of_valueOf worth
    have none : rest.takeWhile (isDigitOf radix) = [] := by cases rest <;> simp_all
    have same : rest.dropWhile (isDigitOf radix) = rest := by cases rest <;> simp_all
    unfold readNumber
    simp only [List.takeWhile_append_of_pos all, List.dropWhile_append_of_pos all, none, same, List.append_nil]
    rw [if_neg (by cases padded <;> grind), worth, Option.map_some]

theorem expect_eq_some : expect c cs = some rest ↔ cs = c :: rest := by
  cases cs with
  | nil => simp [expect]
  | cons first others =>
      by_cases same : first = c <;> simp [expect, same]

theorem readOctet_eq_some : readOctet cs = some (octet, rest) ↔
    cs = Nat.toDigits 10 octet.val ++ rest ∧ ∀ c ∈ rest.head?, c.isDigit = false := by
  unfold readOctet
  simp only [Option.bind_eq_bind, Option.bind_eq_some_iff, Prod.exists, readNumber_eq_some, isDigitOf_ten]
  constructor
  · rintro ⟨value, others, ⟨digits, rfl, worth, stop, -, bare⟩, fits⟩
    obtain ⟨filled, numeric, rfl⟩ := valueOf_eq_some.mp worth
    split at fits
    · cases fits
      have written : Nat.toDigits 10 (Nat.ofDigitChars 10 digits 0) = digits := by
        refine toDigits_ofDigitChars filled numeric fun zero => ?_
        have := List.length_pos_of_ne_nil filled
        have := bare trivial zero
        omega
      exact ⟨by rw [written], stop⟩
    · cases fits
  · rintro ⟨rfl, stop⟩
    have worth : valueOf 10 (Nat.toDigits 10 octet.val) = some octet.val := by
      rw [← decimal_eq_toDigits, valueOf_decimal]
    refine ⟨octet.val, rest, ⟨_, rfl, worth, stop, ?_, fun _ zero => ?_⟩, by simp⟩
    · rw [Nat.length_toDigits_le_iff (by decide) (by decide)]
      omega
    · rw [head_toDigits zero]
      decide

theorem readGroup_eq_some : readGroup cs = some (group, rest) ↔
    ∃ text, cs = text ++ rest ∧ Hex text group ∧ ∀ c ∈ rest.head?, isDigitOf 16 c = false := by
  unfold readGroup
  simp only [Option.bind_eq_bind, Option.bind_eq_some_iff, Prod.exists, readNumber_eq_some, valueOf_sixteen]
  constructor
  · rintro ⟨value, others, ⟨digits, rfl, reads, stop, short, -⟩, fits⟩
    split at fits
    · cases fits
      exact ⟨digits, rfl, ⟨short, reads⟩, stop⟩
    · cases fits
  · rintro ⟨text, rfl, ⟨short, reads⟩, stop⟩
    exact ⟨group.val, rest, ⟨text, rfl, reads, stop, short, nofun⟩, by simp⟩

/-! ## Dotted notation -/

theorem quad_eq : quad dotted = Nat.toDigits 10 dotted.a.val ++ '.' :: (Nat.toDigits 10 dotted.b.val ++
    '.' :: (Nat.toDigits 10 dotted.c.val ++ '.' :: Nat.toDigits 10 dotted.d.val)) := by
  simp [quad, List.intercalate_cons_cons]

theorem readV4_eq_some : readV4 cs = some (dotted, rest) ↔
    cs = quad dotted ++ rest ∧ ∀ c ∈ rest.head?, c.isDigit = false := by
  unfold readV4
  simp only [Option.bind_eq_bind, Option.bind_eq_some_iff, Prod.exists, readOctet_eq_some, expect_eq_some,
    Option.some.injEq, Prod.mk.injEq, quad_eq]
  constructor
  · rintro ⟨a, _, ⟨rfl, -⟩, _, rfl, b, _, ⟨rfl, -⟩, _, rfl, c, _, ⟨rfl, -⟩, _, rfl, d, _, ⟨rfl, stop⟩, rfl, rfl⟩
    exact ⟨by simp, stop⟩
  · rintro ⟨rfl, stop⟩
    have dot {others : List Char} : ∀ c ∈ ('.' :: others).head?, c.isDigit = false := by simp
    simp only [List.append_assoc, List.cons_append]
    exact ⟨dotted.a, _, ⟨rfl, dot⟩, _, rfl, dotted.b, _, ⟨rfl, dot⟩, _, rfl, dotted.c, _, ⟨rfl, dot⟩, _, rfl,
      dotted.d, _, ⟨rfl, stop⟩, rfl, rfl⟩

theorem isDigitOf_of_hex (hex : Hex text group) : ∀ c ∈ text, isDigitOf 16 c = true :=
  isDigitOf_of_valueOf (valueOf_sixteen.mpr hex.2)

theorem digit_of_octet (member : c ∈ Nat.toDigits 10 octet.val) : c.isDigit = true :=
  Nat.isDigit_of_mem_toDigits (by decide) (by decide) member

theorem readV4_eq_none (numeric : ∀ c ∈ text, isDigitOf 16 c = true) (stop : ∀ c ∈ rest.head?, c = ':') :
    readV4 (text ++ rest) = none := by
  rw [Option.eq_none_iff_forall_ne_some]
  rintro ⟨dotted, others⟩ read
  obtain ⟨same, -⟩ := readV4_eq_some.mp read
  rw [quad_eq, List.append_assoc, List.cons_append, List.append_eq_append_iff] at same
  -- The first dot stands behind the digits of the text, or among them.
  rcases same with ⟨between, numeral, rfl⟩ | ⟨between, rfl, row⟩
  · cases between with
    | nil => exact absurd (stop '.' rfl) (by decide)
    | cons c others =>
        have digit : c.isDigit = true := @digit_of_octet c dotted.a (by simp [numeral])
        rw [stop c rfl] at digit
        exact absurd digit (by decide)
  · cases between with
    | nil =>
        rw [List.nil_append] at row
        exact absurd (stop '.' (by simp [← row])) (by decide)
    | cons c others =>
        rw [List.cons_append, List.cons.injEq] at row
        obtain ⟨rfl, -⟩ := row
        exact absurd (numeric '.' (by simp)) (by decide)

theorem readGroup_eq_none (stop : ∀ c ∈ cs.head?, c = ':') : readGroup cs = none := by
  rw [Option.eq_none_iff_forall_ne_some]
  rintro ⟨group, rest⟩ read
  obtain ⟨text, rfl, hex, -⟩ := readGroup_eq_some.mp read
  cases text with
  | nil => exact hex.2.1 rfl
  | cons c others =>
      have digit := isDigitOf_of_hex hex c (.head _)
      rw [stop c rfl] at digit
      exact absurd digit (by decide)

/-! ## Colon notation -/

def lead (first : Bool) : List Char := if first then [] else [':']

theorem afterColon_eq_some : afterColon first cs = some rest ↔ cs = lead first ++ rest := by
  cases first <;> simp [afterColon, lead, expect_eq_some]

theorem afterColon_lead : (afterColon first (lead first ++ cs)) = some cs := afterColon_eq_some.mpr rfl

def Ends (rest : List Char) : Prop := rest = [] ∨ ∃ others, rest = ':' :: ':' :: others

theorem Ends.head (ends : Ends rest) : ∀ c ∈ rest.head?, c = ':' := by
  rcases ends with rfl | ⟨others, rfl⟩ <;> simp

theorem Ends.bind_eq_none {α : Type} {read : List Char → Option α} (ends : Ends rest)
    (refused : ∀ cs, (∀ c ∈ cs.head?, c = ':') → read cs = none) : (afterColon first rest).bind read = none := by
  rw [Option.bind_eq_none_iff]
  intro cs after
  apply refused
  cases first with
  | true =>
      cases after
      exact ends.head
  | false =>
      rw [afterColon_eq_some, lead, if_neg (by decide)] at after
      subst after
      rcases ends with none | ⟨others, colons⟩
      · cases none
      · cases colons
        simp

theorem readGroups_ends (ends : Ends rest) : readGroups room first rest = ([], false, rest) := by
  have noV4 : (afterColon first rest).bind readV4 = none := ends.bind_eq_none fun cs stop => @readV4_eq_none [] cs nofun stop
  have noGroup : (afterColon first rest).bind readGroup = none := ends.bind_eq_none fun cs stop => readGroup_eq_none stop
  cases room with
  | zero => rfl
  | succ room => simp [readGroups, noV4, noGroup]

theorem readGroups_hex (hex : Hex text group) (stop : ∀ c ∈ rest.head?, c = ':') :
    readGroups (room + 1) first (lead first ++ (text ++ rest)) =
      ((group :: (readGroups room false rest).1), (readGroups room false rest).2) := by
  have noV4 : (afterColon first (lead first ++ (text ++ rest))).bind readV4 = none := by
    rw [afterColon_lead, Option.bind_some, readV4_eq_none (isDigitOf_of_hex hex) stop]
  have read : (afterColon first (lead first ++ (text ++ rest))).bind readGroup = some (group, rest) := by
    rw [afterColon_lead, Option.bind_some, readGroup_eq_some]
    refine ⟨text, rfl, hex, fun c head => ?_⟩
    rw [stop c head]
    decide
  simp only [readGroups, noV4, read, ite_self]

theorem readGroups_groups (row : Groups ending text groups) (fits : groups.length ≤ room) (ends : Ends rest) :
    readGroups room first (lead first ++ (text ++ rest)) = (groups, ending, rest) := by
  induction row generalizing room first with
  | last hex =>
      obtain ⟨room, rfl⟩ := Nat.exists_eq_add_of_le' fits
      rw [List.length_singleton, readGroups_hex hex ends.head, readGroups_ends ends]
  | dotted address =>
      obtain ⟨room, rfl⟩ := Nat.exists_eq_add_of_le' fits
      have read : (afterColon first (lead first ++ (quad address ++ rest))).bind readV4 = some (address, rest) := by
        rw [afterColon_lead, Option.bind_some, readV4_eq_some]
        refine ⟨rfl, fun c head => ?_⟩
        rw [ends.head c head]
        decide
      simp [readGroups, read, dottedGroups]
  | @more _ text others group groups hex row ih =>
      obtain ⟨room, rfl⟩ := Nat.exists_eq_add_of_le' fits
      have tail : readGroups (room + groups.length) false (':' :: (others ++ rest)) = (groups, _, rest) :=
        ih (Nat.le_add_left _ _)
      rw [List.length_cons, ← Nat.add_assoc, List.append_assoc, List.cons_append, readGroups_hex hex (by simp), tail]

theorem groups_of_readGroups (read : readGroups room first cs = (groups, ending, rest)) : groups.length ≤ room ∧
    (ending = false ∧ groups = [] ∧ cs = rest ∨ ∃ text, cs = lead first ++ (text ++ rest) ∧ Groups ending text groups) := by
  induction room generalizing first cs groups with
  | zero =>
      cases read
      exact ⟨Nat.le_refl _, .inl ⟨rfl, rfl, rfl⟩⟩
  | succ room ih =>
      rw [readGroups] at read
      -- Dotted notation is tried first, so a group is read only where there is none.
      split at read
      · next dotted others found =>
          cases read
          split at found
          · next more =>
              rw [Option.bind_eq_some_iff] at found
              obtain ⟨after, start, read⟩ := found
              obtain ⟨rfl, -⟩ := readV4_eq_some.mp read
              exact ⟨Nat.succ_le_succ more, .inr ⟨_, afterColon_eq_some.mp start, .dotted dotted⟩⟩
          · cases found
      · split at read
        · next group others found =>
            rw [Option.bind_eq_some_iff] at found
            obtain ⟨after, start, taken⟩ := found
            obtain ⟨text, rfl, hex, -⟩ := readGroup_eq_some.mp taken
            rcases tail : readGroups room false others with ⟨more, flag, left⟩
            rw [tail] at read
            cases read
            obtain ⟨fits, ⟨rfl, rfl, rfl⟩ | ⟨row, rfl, spelled⟩⟩ := ih tail
            · exact ⟨Nat.succ_le_succ fits, .inr ⟨text, afterColon_eq_some.mp start, .last hex⟩⟩
            · refine ⟨Nat.succ_le_succ fits, .inr ⟨_, ?_, .more hex spelled⟩⟩
              rw [afterColon_eq_some.mp start]
              simp [lead]
        · cases read
          exact ⟨Nat.zero_le _, .inl ⟨rfl, rfl, rfl⟩⟩

theorem ofGroups?_eq_some : ofGroups? groups = some colons ↔ colons.groups = groups := by
  obtain ⟨own, size⟩ := colons
  unfold ofGroups?
  split <;> grind

theorem side_of_readGroups (read : readGroups room true cs = (groups, ending, rest)) : groups.length ≤ room ∧
    ∃ text, cs = text ++ rest ∧ Side ending text groups := by
  obtain ⟨fits, ⟨rfl, rfl, rfl⟩ | ⟨text, rfl, row⟩⟩ := groups_of_readGroups read
  · exact ⟨fits, [], rfl, .inr ⟨rfl, rfl, rfl⟩⟩
  · exact ⟨fits, text, rfl, .inl row⟩

theorem readGroups_side (side : Side ending text groups) (fits : groups.length ≤ room) (ends : Ends rest) :
    readGroups room true (text ++ rest) = (groups, ending, rest) := by
  rcases side with row | ⟨rfl, rfl, rfl⟩
  · exact @readGroups_groups _ _ _ true _ _ row fits ends
  · exact readGroups_ends ends

theorem readV6_eq_some : readV6 cs = some (colons, rest) ↔
    (∃ ending, readGroups 8 true cs = (colons.groups, ending, rest)) ∨
      ∃ front right back ending, readGroups 8 true cs = (front, false, ':' :: ':' :: right) ∧ front.length ≠ 8 ∧
        readGroups (7 - front.length) true right = (back, ending, rest) ∧
        colons.groups = front ++ List.replicate (8 - front.length - back.length) 0 ++ back := by
  rcases before : readGroups 8 true cs with ⟨front, dotted, others⟩
  unfold readV6
  simp only [before, Option.bind_eq_bind, Option.pure_def, Prod.mk.injEq]
  by_cases full : front.length = 8
  · simp only [if_pos full, Option.bind_eq_some_iff, ofGroups?_eq_some, Option.some.injEq, Prod.mk.injEq]
    constructor
    · rintro ⟨_, rfl, rfl, rfl⟩
      exact .inl ⟨dotted, rfl, rfl, rfl⟩
    · rintro (⟨_, rfl, -, rfl⟩ | ⟨_, _, _, _, ⟨rfl, -⟩, short, -⟩)
      · exact ⟨colons, rfl, rfl, rfl⟩
      · exact absurd full short
  · have short (ending : Bool) : ¬ (front = colons.groups ∧ dotted = ending ∧ others = rest) :=
      fun whole => full (whole.1 ▸ colons.size)
    rw [if_neg full, or_iff_right fun ⟨ending, whole⟩ => short ending whole]
    cases dotted with
    | true => simp
    | false =>
        simp only [Bool.false_eq_true, if_false, Option.bind_eq_some_iff, expect_eq_some, ofGroups?_eq_some,
          Option.some.injEq, Prod.mk.injEq]
        constructor
        · rintro ⟨_, rfl, right, rfl, _, row, rfl, rfl⟩
          exact ⟨front, right, _, _, ⟨rfl, trivial, rfl⟩, full, rfl, row⟩
        · rintro ⟨_, right, back, ending, ⟨rfl, -, rfl⟩, -, after, row⟩
          refine ⟨_, rfl, right, rfl, colons, ?_, rfl, ?_⟩
          · rw [after]
            exact row
          · rw [after]

theorem spells_of_readV6 (read : readV6 cs = some (colons, [])) : Spells cs (.v6 colons) := by
  obtain ⟨ending, whole⟩ | ⟨front, right, back, ending, before, short, after, row⟩ := readV6_eq_some.mp read
  · obtain ⟨-, text, rfl, side⟩ := side_of_readGroups whole
    rw [List.append_nil]
    rcases side with row | ⟨-, -, none⟩
    · exact .whole row
    · exact absurd (none ▸ colons.size) (by decide)
  · obtain ⟨most, left, rfl, left_side⟩ := side_of_readGroups before
    obtain ⟨fits, text, rfl, right_side⟩ := side_of_readGroups after
    rw [List.append_nil]
    exact .shortened left_side right_side (by omega) row

theorem readV6_of_spells (spells : Spells cs (.v6 colons)) : readV6 cs = some (colons, []) := by
  rw [readV6_eq_some]
  cases spells with
  | @whole ending _ _ row =>
      have read := readGroups_side (.inl row) (Nat.le_of_eq colons.size) (.inl rfl)
      rw [List.append_nil] at read
      exact .inl ⟨ending, read⟩
  | @shortened ending left right front back zeros _ before after some row =>
      have size := colons.size
      rw [row, List.length_append, List.length_append, List.length_replicate] at size
      refine .inr ⟨front, right, back, ending, readGroups_side before (by omega) (.inr ⟨right, rfl⟩), by omega, ?_, ?_⟩
      · have read := @readGroups_side _ [] (7 - front.length) _ _ after (by omega) (.inl rfl)
        rwa [List.append_nil] at read
      · rw [row, show 8 - front.length - back.length = zeros by omega]

theorem readV4_groups (row : Groups ending text groups) (others : ending = true → groups.length ≠ 2)
    (stop : ∀ c ∈ rest.head?, c = ':') : readV4 (text ++ rest) = none := by
  cases row with
  | last hex => exact readV4_eq_none (isDigitOf_of_hex hex) stop
  | dotted address => exact absurd rfl (others rfl)
  | more hex others =>
      rw [List.append_assoc]
      exact readV4_eq_none (isDigitOf_of_hex hex) (by simp)

theorem readV4_of_spells (spells : Spells cs (.v6 colons)) : readV4 cs = none := by
  cases spells with
  | whole row =>
      have read := @readV4_groups _ [] _ _ row (fun _ => by rw [colons.size]; decide) (by simp)
      rwa [List.append_nil] at read
  | shortened before after some row =>
      rcases before with row | ⟨-, rfl, -⟩
      · exact readV4_groups row nofun (by simp)
      · exact @readV4_eq_none [] _ nofun (by simp)

theorem read?_eq_some : read? cs = some address ↔ Spells cs address := by
  constructor
  · intro read
    unfold read? at read
    split at read
    · next dotted rest found =>
        obtain ⟨rfl, -⟩ := readV4_eq_some.mp found
        split at read
        · next empty =>
            cases read
            rw [List.isEmpty_iff.mp empty, List.append_nil]
            exact .quad dotted
        · cases read
    · split at read
      · next colons rest found =>
          split at read
          · next empty =>
              cases read
              rw [List.isEmpty_iff.mp empty] at found
              exact spells_of_readV6 found
          · cases read
      · cases read
  · intro spells
    cases address with
    | v4 dotted =>
        cases spells
        have read : readV4 (quad dotted) = some (dotted, []) := readV4_eq_some.mpr ⟨(List.append_nil _).symm, by simp⟩
        simp [read?, read]
    | v6 colons => simp [read?, readV4_of_spells spells, readV6_of_spells spells]

/-! ## The characters of an address -/

theorem isDigitOf_sixteen : isDigitOf 16 c = true ↔
    c.isDigit = true ∨ 97 ≤ c.toNat ∧ c.toNat ≤ 102 ∨ 65 ≤ c.toNat ∧ c.toNat ≤ 70 := by
  rw [isDigit_iff]
  unfold isDigitOf digitValue?
  simp only [Bool.and_eq_true, decide_eq_true_eq]
  split_ifs <;> simp <;> omega

def Plain (text : List Char) : Prop := ∀ c ∈ text, isDigitOf 16 c = true ∨ c = '.' ∨ c = ':'

theorem Plain.append (left : Plain cs) (right : Plain text) : Plain (cs ++ text) :=
  List.forall_mem_append.mpr ⟨left, right⟩

theorem Plain.colon (right : Plain text) : Plain (':' :: text) :=
  List.forall_mem_cons.mpr ⟨.inr (.inr rfl), right⟩

theorem plain_quad : Plain (quad dotted) := by
  have octet (n : Fin 256) : ∀ c ∈ Nat.toDigits 10 n.val, isDigitOf 16 c = true ∨ c = '.' ∨ c = ':' :=
    fun c member => .inl (isDigitOf_sixteen.mpr (.inl (digit_of_octet member)))
  simp only [Plain, quad_eq, List.forall_mem_append, List.forall_mem_cons, true_or, or_true, true_and]
  exact ⟨octet _, octet _, octet _, octet _⟩

theorem plain_of_hex (hex : Hex text group) : Plain text := fun c member => .inl (isDigitOf_of_hex hex c member)

theorem plain_of_groups (row : Groups ending text groups) : Plain text := by
  induction row with
  | last hex => exact plain_of_hex hex
  | dotted address => exact plain_quad
  | more hex others ih => exact (plain_of_hex hex).append ih.colon

theorem plain_of_side (side : Side ending text groups) : Plain text := by
  rcases side with row | ⟨-, rfl, -⟩
  · exact plain_of_groups row
  · exact nofun

theorem plain_of_spells (spells : Spells text address) : Plain text := by
  cases spells with
  | quad dotted => exact plain_quad
  | whole row => exact plain_of_groups row
  | shortened before after some row => exact (plain_of_side before).append (plain_of_side after).colon.colon

theorem Plain.bare (plain : Plain text) : ∀ c ∈ text, Text.isBlank c = false := by
  intro c member
  rcases plain c member with digit | rfl | rfl
  · rw [isDigitOf_sixteen, isDigit_iff] at digit
    simp only [Text.isBlank, Bool.or_eq_false_iff, Bool.and_eq_false_iff, decide_eq_false_iff_not, beq_eq_false_iff_ne]
    omega
  · decide
  · decide

theorem Plain.slash_not_mem (plain : Plain text) : '/' ∉ text := fun member => absurd (plain '/' member) (by decide)

end Address
end OverlayFabric
