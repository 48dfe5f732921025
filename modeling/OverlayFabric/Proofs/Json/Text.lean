import OverlayFabric.Json.Printer
import OverlayFabric.Json.Reader
import OverlayFabric.Proofs.Keyed
import OverlayFabric.Proofs.Text.Word

namespace OverlayFabric.Json
open Number

variable {cs rest seen : List Char} {c : Char} {fuel depth n : Nat} {json : Json} {items done : List Json}
  {fields map : List (String × Json)}

/-! ## Strings -/

theorem readEscapedUnit_control (control : c.toNat < 32) :
    readEscapedUnit ('0' :: '0' :: digitChar (c.toNat / 16) :: digitChar (c.toNat % 16) :: rest) = some (c, rest) := by
  have value : ∀ n < 32, valueOf 16 ['0', '0', digitChar (n / 16), digitChar (n % 16)] = some n := by decide
  have read : readHex4 ('0' :: '0' :: digitChar (c.toNat / 16) :: digitChar (c.toNat % 16) :: rest) = some (c.toNat, rest) := by
    simp [readHex4, value c.toNat control]
  have low : ¬ (0xDC00 ≤ c.toNat ∧ c.toNat ≤ 0xDFFF) := by omega
  have high : ¬ (0xD800 ≤ c.toNat ∧ c.toNat ≤ 0xDBFF) := by omega
  simp [readEscapedUnit, read, low, high]

theorem readStringFrom_escape : readStringFrom (fuel + 1) seen (escape c ++ rest) = readStringFrom fuel (c :: seen) rest := by
  have ofNat : Char.ofNat c.toNat = c := Char.ofNat_toNat c
  unfold escape
  split_ifs with quote backslash newline carriage tab eight twelve control
  · simp [readStringFrom, plainEscape?, quote]
  · simp [readStringFrom, plainEscape?, backslash]
  · simp [readStringFrom, plainEscape?, newline]
  · simp [readStringFrom, plainEscape?, carriage]
  · simp [readStringFrom, plainEscape?, tab]
  · rw [eight] at ofNat
    subst ofNat
    rfl
  · rw [twelve] at ofNat
    subst ofNat
    rfl
  · simp [readStringFrom, readEscapedUnit_control control]
  · simp [readStringFrom, quote, backslash, control]

theorem readStringFrom_escapes (enough : cs.length < fuel) :
    readStringFrom fuel seen (cs.flatMap escape ++ '"' :: rest) = some (String.ofList (seen.reverse ++ cs), rest) := by
  induction cs generalizing fuel seen with
  | nil =>
      obtain ⟨fuel, rfl⟩ := Nat.exists_eq_add_of_lt enough
      simp [readStringFrom]
  | cons c cs ih =>
      cases fuel with
      | zero => exact absurd enough (Nat.not_lt_zero _)
      | succ fuel =>
          rw [List.flatMap_cons, List.append_assoc, readStringFrom_escape, ih (Nat.lt_of_succ_lt_succ enough)]
          simp

theorem length_escapes : cs.length ≤ (cs.flatMap escape).length := by
  have filled (c : Char) : 1 ≤ (escape c).length := by
    unfold escape
    split_ifs <;> simp
  induction cs with
  | nil => exact Nat.le_refl 0
  | cons c cs ih =>
      have := filled c
      rw [List.flatMap_cons, List.length_append, List.length_cons]
      omega

theorem readString_quote {text : String} :
    readString (text.toList.flatMap escape ++ '"' :: rest) = some (text, rest) := by
  have := @length_escapes text.toList
  have enough : text.toList.length < (text.toList.flatMap escape ++ '"' :: rest).length + 1 := by
    rw [List.length_append]
    omega
  rw [readString, readStringFrom_escapes enough, List.reverse_nil, List.nil_append, String.ofList_toList]

/-! ## Numbers -/

theorem isDigit_eq : isDigit c = c.isDigit := by
  rw [isDigit, isDigitOf, digitValue?_ten]
  cases c.isDigit <;> rfl

def Ended (rest : List Char) : Prop := ∀ c ∈ rest.head?, isDigit c = false ∧ c ∉ ['.', 'e', 'E']

theorem ended_nil : Ended [] := nofun

theorem ended_cons (listed : c ∈ [',', ']', '}']) : Ended (c :: rest) := by
  rintro _ (_ | _)
  revert listed
  simp only [List.mem_cons, List.not_mem_nil, or_false]
  rintro (rfl | rfl | rfl) <;> decide

theorem readFraction_ended (ended : Ended rest) : readFraction rest = some ([], rest) := by
  unfold readFraction
  split
  · next digits => exact absurd (ended '.' rfl).2 (by decide)
  · rfl

theorem readExponent_ended (ended : Ended rest) : readExponent rest = some (none, rest) := by
  unfold readExponent
  split
  · next e digits =>
      have other := (ended e rfl).2
      simp only [List.mem_cons, List.not_mem_nil, or_false, not_or] at other
      rw [if_neg (not_or.mpr other.2)]
  · rfl

theorem digits_decimal (ended : Ended rest) :
    (decimal n ++ rest).takeWhile isDigit = decimal n ∧ (decimal n ++ rest).dropWhile isDigit = rest := by
  have numeric : ∀ c ∈ decimal n, isDigit c = true := fun c member => isDigit_eq.trans (isDigit_of_mem_decimal member)
  rw [List.takeWhile_append_of_pos numeric, List.dropWhile_append_of_pos numeric]
  cases rest with
  | nil => simp
  | cons c rest => simp [(ended c rfl).1]

theorem decimal_bare : ¬ ((decimal n).head? = some '0' ∧ 1 < (decimal n).length) := by
  rintro ⟨zero, long⟩
  rw [decimal_eq_toDigits] at zero long
  rw [head_toDigits zero] at long
  exact absurd long (by decide)

theorem decimal_cons : ∃ c cs, decimal n = c :: cs ∧ c.isDigit = true := by
  cases written : decimal n with
  | nil => exact absurd written (numeral_ne_nil 10 n)
  | cons c cs =>
      have member : c ∈ decimal n := by
        rw [written]
        exact .head _
      exact ⟨c, cs, rfl, isDigit_of_mem_decimal member⟩

theorem readNumber_negative (ended : Ended rest) :
    readNumber ('-' :: (decimal n ++ rest)) = (ofWhole? true n).bind fun number => some (number, rest) := by
  obtain ⟨c, cs, written, _⟩ := @decimal_cons n
  have filled : (decimal n).isEmpty = false := by rw [written]; rfl
  simp [readNumber, readNumeral, Numeral.value?, digits_decimal ended, filled, decimal_bare, readFraction_ended ended, readExponent_ended ended,
    valueOf_decimal]

theorem readNumber_positive (ended : Ended rest) :
    readNumber (decimal n ++ rest) = (ofWhole? false n).bind fun number => some (number, rest) := by
  obtain ⟨c, cs, written, digit⟩ := @decimal_cons n
  have filled : (decimal n).isEmpty = false := by rw [written]; rfl
  have unsigned : ∀ tail, decimal n ++ rest = '-' :: tail → False := by
    rintro tail minus
    rw [written] at minus
    cases minus
    exact absurd digit (by decide)
  obtain ⟨taken, left⟩ := @digits_decimal _ n ended
  generalize decimal n ++ rest = text at unsigned taken left
  simp [readNumber, readNumeral, Numeral.value?, taken, left, filled, decimal_bare, readFraction_ended ended, readExponent_ended ended,
    valueOf_decimal]

def Fits (value : Int) : Prop := -9223372036854775808 ≤ value ∧ value ≤ 18446744073709551615

theorem readNumber_intText {value : Int} (fits : Fits value) (ended : Ended rest) :
    readNumber (intText value ++ rest) = some (.int value, rest) := by
  obtain ⟨low, high⟩ := fits
  unfold intText
  split
  · next negative =>
      have within : ¬ (value.natAbs = 0 ∨ Nat.pow 2 63 < value.natAbs) := by
        change ¬ (value.natAbs = 0 ∨ 9223372036854775808 < value.natAbs)
        omega
      have same : -(value.natAbs : Int) = value := by omega
      rw [List.cons_append, readNumber_negative ended, ofWhole?, if_pos rfl, if_neg within, same]
      rfl
  · next positive =>
      have within : ¬ Nat.pow 2 64 ≤ value.natAbs := by
        change ¬ 18446744073709551616 ≤ value.natAbs
        omega
      have same : (value.natAbs : Int) = value := by omega
      rw [readNumber_positive ended, ofWhole?, if_neg (by decide), if_neg within, same]
      rfl

/-! ## Values -/

/-- Whole numbers fit, names are in order, nothing is a double, and so much depth is enough. -/
inductive Legible : Nat → Json → Prop
  | null {depth : Nat} : Legible depth .null
  | bool {depth : Nat} {value : Bool} : Legible depth (.bool value)
  | int {depth : Nat} {value : Int} (fits : Fits value) : Legible depth (.int value)
  | str {depth : Nat} {value : String} : Legible depth (.str value)
  | arr {depth : Nat} {items : List Json} (each : ∀ item ∈ items, Legible depth item) : Legible (depth + 1) (.arr items)
  | obj {depth : Nat} {fields : List (String × Json)} (ascending : fields.Pairwise fun a b => a.1 < b.1)
      (each : ∀ field ∈ fields, Legible depth field.2) : Legible (depth + 1) (.obj fields)

/-- What is written of a value is read as that value, whatever follows that ends it. -/
def ReadsBack (depth : Nat) (json : Json) : Prop := ∀ fuel rest, (print json).length ≤ fuel → Ended rest →
  readValue fuel depth (print json ++ rest) = some (json, rest)

theorem skipSpace_of_solid (solid : isSpace c = false) : skipSpace (c :: cs) = c :: cs := by
  simp [skipSpace, solid]

theorem print_cons (legible : Legible depth json) : ∃ c cs, print json = c :: cs ∧ isSpace c = false ∧ c ≠ ']' := by
  cases legible with
  | null => exact ⟨'n', _, rfl, by decide, by decide⟩
  | @bool _ value =>
      cases value with
      | true => exact ⟨'t', _, rfl, by decide, by decide⟩
      | false => exact ⟨'f', _, rfl, by decide, by decide⟩
  | @int _ value fits =>
      obtain ⟨c, cs, written, digit⟩ := @decimal_cons value.natAbs
      simp only [print, intText]
      split
      · exact ⟨'-', _, rfl, by decide, by decide⟩
      · refine ⟨c, cs, written, Bool.eq_false_iff.mpr fun space => ?_, ?_⟩
        · simp only [isSpace, Bool.or_eq_true, decide_eq_true_eq] at space
          rcases space with ((rfl | rfl) | rfl) | rfl <;> exact absurd digit (by decide)
        · rintro rfl
          exact absurd digit (by decide)
  | str => exact ⟨'"', _, rfl, by decide, by decide⟩
  | arr => exact ⟨'[', _, rfl, by decide, by decide⟩
  | obj => exact ⟨'{', _, rfl, by decide, by decide⟩

theorem printItems_cons_cons {item next : Json} :
    printItems (item :: next :: items) = print item ++ ',' :: printItems (next :: items) := by
  rw [printItems]
  exact nofun

theorem printFields_cons_cons {field next : String × Json} : printFields (field :: next :: fields) =
    quote field.1 ++ ':' :: print field.2 ++ ',' :: printFields (next :: fields) := by
  rw [printFields]
  exact nofun

theorem readItems_print (each : ∀ item ∈ items, ReadsBack depth item) (filled : items ≠ [])
    (enough : (printItems items).length < fuel) :
    readItems fuel depth done (printItems items ++ ']' :: rest) = some (done.reverse ++ items, rest) := by
  induction items generalizing fuel done with
  | nil => exact absurd rfl filled
  | cons item others ih =>
      obtain ⟨first, later⟩ := List.forall_mem_cons.mp each
      cases fuel with
      | zero => exact absurd enough (Nat.not_lt_zero _)
      | succ fuel =>
          cases others with
          | nil =>
              have read := first fuel (']' :: rest) (Nat.le_of_lt_succ enough) (ended_cons (by decide))
              rw [printItems, readItems, read]
              simp only [skipSpace_of_solid (show isSpace ']' = false by decide), List.reverse_cons]
          | cons next others =>
              rw [printItems_cons_cons, List.length_append, List.length_cons] at enough
              have read := first fuel (',' :: (printItems (next :: others) ++ ']' :: rest)) (by omega) (ended_cons (by decide))
              have onward := @ih fuel (item :: done) later (List.cons_ne_nil _ _) (by omega)
              rw [printItems_cons_cons, List.append_assoc, List.cons_append, readItems, read]
              simp only [skipSpace_of_solid (show isSpace ',' = false by decide), onward, List.reverse_cons,
                List.append_assoc, List.singleton_append]

theorem readFields_last {name : String} (back : ReadsBack depth json) (enough : (print json).length ≤ fuel) :
    readFields (fuel + 1) depth map (quote name ++ ':' :: (print json ++ '}' :: rest)) =
      some (insertKey name json map, rest) := by
  have solid : isSpace '"' = false ∧ isSpace ':' = false ∧ isSpace '}' = false := by decide
  have read := back fuel ('}' :: rest) enough (ended_cons (by decide))
  simp [readFields, quote, skipSpace_of_solid solid.1, readString_quote, skipSpace_of_solid solid.2.1, read,
    skipSpace_of_solid solid.2.2]

theorem readFields_more {name : String} (back : ReadsBack depth json) (enough : (print json).length ≤ fuel) :
    readFields (fuel + 1) depth map (quote name ++ ':' :: (print json ++ ',' :: rest)) =
      readFields fuel depth (insertKey name json map) rest := by
  have solid : isSpace '"' = false ∧ isSpace ':' = false ∧ isSpace ',' = false := by decide
  have read := back fuel (',' :: rest) enough (ended_cons (by decide))
  simp [readFields, quote, skipSpace_of_solid solid.1, readString_quote, skipSpace_of_solid solid.2.1, read,
    skipSpace_of_solid solid.2.2]

theorem readFields_print (each : ∀ field ∈ fields, ReadsBack depth field.2) (filled : fields ≠ [])
    (ascending : (map ++ fields).Pairwise fun a b => a.1 < b.1) (enough : (printFields fields).length < fuel) :
    readFields fuel depth map (printFields fields ++ '}' :: rest) = some (map ++ fields, rest) := by
  induction fields generalizing fuel map with
  | nil => exact absurd rfl filled
  | cons field others ih =>
      obtain ⟨first, later⟩ := List.forall_mem_cons.mp each
      have inserted : insertKey field.1 field.2 map = map ++ [field] :=
        Keyed.insertKey_of_last fun earlier member => (List.pairwise_append.mp ascending).2.2 earlier member field (.head _)
      cases fuel with
      | zero => exact absurd enough (Nat.not_lt_zero _)
      | succ fuel =>
          cases others with
          | nil =>
              rw [printFields, List.length_append, List.length_cons] at enough
              rw [printFields, List.append_assoc, List.cons_append, readFields_last first (by omega), inserted]
          | cons next others =>
              rw [printFields_cons_cons] at enough
              simp only [List.length_append, List.length_cons] at enough
              have whole : map ++ field :: next :: others = (map ++ [field]) ++ next :: others := by simp
              have onward := @ih fuel (map ++ [field]) later (List.cons_ne_nil _ _) (whole ▸ ascending) (by omega)
              have apart : printFields (field :: next :: others) ++ '}' :: rest =
                  quote field.1 ++ ':' :: (print field.2 ++ ',' :: (printFields (next :: others) ++ '}' :: rest)) := by
                rw [printFields_cons_cons]
                simp
              rw [apart, readFields_more first (by omega), inserted, whole]
              exact onward

theorem readValue_intText {value : Int} (fits : Fits value) (ended : Ended rest) :
    readValue (fuel + 1) depth (intText value ++ rest) = some (.int value, rest) := by
  obtain ⟨c, cs, written, solid, _⟩ := @print_cons depth _ (.int fits)
  rw [print] at written
  have number := readNumber_intText fits ended
  rw [written, List.cons_append] at number ⊢
  have first : c = '-' ∨ c.isDigit = true := by
    obtain ⟨d, ds, digits, digit⟩ := @decimal_cons value.natAbs
    unfold intText at written
    split at written
    · exact .inl (List.cons.inj written).1.symm
    · rw [digits] at written
      rw [← (List.cons.inj written).1]
      exact .inr digit
  have other (mark : Char) (word : mark ≠ '-' ∧ mark.isDigit = false) : c ≠ mark := by
    rintro rfl
    rcases first with minus | digit
    · exact word.1 minus
    · exact absurd digit (by rw [word.2]; decide)
  simp only [readValue, skipSpace_of_solid solid, if_neg (other '"' (by decide)), if_neg (other '[' (by decide)),
    if_neg (other '{' (by decide)), if_neg (other 't' (by decide)), if_neg (other 'f' (by decide)),
    if_neg (other 'n' (by decide)), number]

theorem readValue_items (each : ∀ item ∈ items, Legible depth item ∧ ReadsBack depth item)
    (enough : (print (.arr items)).length ≤ fuel + 1) :
    readValue (fuel + 1) (depth + 1) (print (.arr items) ++ rest) = some (.arr items, rest) := by
  cases items with
  | nil => rfl
  | cons item others =>
      obtain ⟨c, cs, written, solid, unended⟩ : ∃ c cs, printItems (item :: others) ++ ']' :: rest = c :: cs ∧
          isSpace c = false ∧ c ≠ ']' := by
        obtain ⟨c, cs, written, solid, unended⟩ := print_cons (each item (.head _)).1
        cases others with
        | nil => exact ⟨c, cs ++ ']' :: rest, by rw [printItems, written, List.cons_append], solid, unended⟩
        | cons next others =>
            exact ⟨c, cs ++ ',' :: printItems (next :: others) ++ ']' :: rest,
              by rw [printItems_cons_cons, written, List.cons_append, List.cons_append], solid, unended⟩
      rw [print, List.length_append, List.length_cons, List.length_singleton] at enough
      have read := @readItems_print rest fuel depth (item :: others) [] (fun item member => (each item member).2)
        (List.cons_ne_nil _ _) (by omega)
      have apart : print (.arr (item :: others)) ++ rest = '[' :: (printItems (item :: others) ++ ']' :: rest) := by
        rw [print]
        simp
      rw [apart, readValue, skipSpace_of_solid (by decide)]
      rw [written] at read ⊢
      simp [skipSpace_of_solid solid, unended, read]

theorem readValue_fields (each : ∀ field ∈ fields, ReadsBack depth field.2)
    (ascending : fields.Pairwise fun a b => a.1 < b.1) (enough : (print (.obj fields)).length ≤ fuel + 1) :
    readValue (fuel + 1) (depth + 1) (print (.obj fields) ++ rest) = some (.obj fields, rest) := by
  cases fields with
  | nil => rfl
  | cons field others =>
      obtain ⟨cs, written⟩ : ∃ cs, printFields (field :: others) ++ '}' :: rest = '"' :: cs := by
        cases others with
        | nil => exact ⟨_, rfl⟩
        | cons next others => exact ⟨_, by rw [printFields_cons_cons]; rfl⟩
      rw [print, List.length_append, List.length_cons, List.length_singleton] at enough
      have read := @readFields_print rest fuel depth (field :: others) [] each (List.cons_ne_nil _ _) ascending (by omega)
      have apart : print (.obj (field :: others)) ++ rest = '{' :: (printFields (field :: others) ++ '}' :: rest) := by
        rw [print]
        simp
      rw [apart, readValue, skipSpace_of_solid (by decide)]
      rw [written] at read ⊢
      simp [skipSpace_of_solid (show isSpace '"' = false by decide), read]

theorem readsBack_of_legible (legible : Legible depth json) : ReadsBack depth json := by
  -- Every value has a first character, so that there is fuel to read it.
  have fueled {depth : Nat} {json : Json} (legible : Legible depth json)
      (back : ∀ fuel rest, (print json).length ≤ fuel + 1 → Ended rest →
        readValue (fuel + 1) depth (print json ++ rest) = some (json, rest)) : ReadsBack depth json := by
    intro fuel rest enough ended
    obtain ⟨c, cs, written, _⟩ := print_cons legible
    cases fuel with
    | zero =>
        rw [written] at enough
        cases enough
    | succ fuel => exact back fuel rest enough ended
  induction legible with
  | null => exact fueled .null fun _ _ _ _ => rfl
  | @bool _ value => exact fueled .bool fun _ _ _ _ => by cases value <;> rfl
  | int fits => exact fueled (.int fits) fun _ _ _ ended => readValue_intText fits ended
  | str =>
      refine fueled .str fun fuel rest _ _ => ?_
      rw [print, quote, List.append_assoc, List.cons_append, readValue, skipSpace_of_solid (by decide)]
      simp [readString_quote]
  | arr each ih =>
      exact fueled (.arr each) fun _ _ enough _ =>
        readValue_items (fun item member => ⟨each item member, ih item member⟩) enough
  | obj ascending each ih => exact fueled (.obj ascending each) fun _ _ enough _ => readValue_fields ih ascending enough

theorem ofText?_text (legible : Legible depthLimit json) : ofText? json.text = some json := by
  have enough : (print json).length ≤ 2 * (print json).length + 2 := by omega
  have read := readsBack_of_legible legible (2 * (print json).length + 2) [] enough ended_nil
  rw [List.append_nil] at read
  rw [ofText?, text, String.toList_ofList, read?, read]
  rfl

end OverlayFabric.Json
