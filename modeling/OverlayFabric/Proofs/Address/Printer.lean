import OverlayFabric.Proofs.Address.Spelling

namespace OverlayFabric
open Number

namespace Address

variable {text : List Char} {c : Char} {groups before after front back : List (Fin 65536)} {zeros n : Nat}
  {inner : AddressV4} {colons : AddressV6} {address : Address}

def hextets (groups : List (Fin 65536)) : List Char := [':'].intercalate (groups.map (Nat.toDigits 16 ·.val))

structure Maps (address : AddressV6) (inner : AddressV4) : Prop where
  row : address.groups = [0, 0, 0, 0, 0, 65535] ++ dottedGroups inner

/-- Zero groups between the others, as many as anywhere and before any run as long. -/
structure LongestRun (groups front : List (Fin 65536)) (zeros : Nat) (back : List (Fin 65536)) : Prop where
  row : groups = front ++ List.replicate zeros 0 ++ back
  longest : ∀ before n after, groups = before ++ List.replicate n 0 ++ after → n ≤ zeros
  first : ∀ before after, groups = before ++ List.replicate zeros 0 ++ after → front.length ≤ before.length

inductive Written : Address → List Char → Prop where
  | dotted (address : AddressV4) : Written (.v4 address) (quad address)
  | mapped {address : AddressV6} {inner : AddressV4} (maps : Maps address inner) :
      Written (.v6 address) ("::ffff:".toList ++ quad inner)
  | shortened {address : AddressV6} {front back : List (Fin 65536)} {zeros : Nat} (plain : ∀ inner, ¬ Maps address inner)
      (run : LongestRun address.groups front zeros back) (several : 2 ≤ zeros) :
      Written (.v6 address) (hextets front ++ "::".toList ++ hextets back)
  | whole {address : AddressV6} (plain : ∀ inner, ¬ Maps address inner) (lone : ¬ [0, 0] <:+: address.groups) :
      Written (.v6 address) (hextets address.groups)

/-! ## The run that is left out -/

theorem LongestRun.unique {zeros' : Nat} {front' back' : List (Fin 65536)} (run : LongestRun groups front zeros back)
    (other : LongestRun groups front' zeros' back') : front = front' ∧ zeros = zeros' ∧ back = back' := by
  have same : zeros = zeros' := Nat.le_antisymm (other.longest _ _ _ run.row) (run.longest _ _ _ other.row)
  subst same
  have level : front.length = front'.length := Nat.le_antisymm (run.first _ _ other.row) (other.first _ _ run.row)
  have rows := run.row.symm.trans other.row
  rw [List.append_assoc, List.append_assoc] at rows
  obtain ⟨rfl, rest⟩ := List.append_inj rows level
  exact ⟨rfl, rfl, (List.append_inj rest rfl).2⟩

theorem takeWhile_zeros : groups.takeWhile (· == 0) = List.replicate (groups.takeWhile (· == 0)).length 0 := by
  rw [List.eq_replicate_iff]
  exact ⟨rfl, fun group member => by simpa using List.mem_takeWhile_imp member⟩

theorem zeroRun_row : groups = groups.take (zeroRun groups).1 ++ List.replicate (zeroRun groups).2 0 ++
    groups.drop ((zeroRun groups).1 + (zeroRun groups).2) := by
  induction groups with
  | nil => rfl
  | cons group groups ih =>
      rw [zeroRun]
      simp only
      split
      · rw [List.take_zero, List.nil_append, Nat.zero_add, ← takeWhile_zeros]
        exact (List.prefix_iff_eq_append.mp (List.takeWhile_prefix _)).symm
      · rw [List.take_succ_cons, Nat.add_right_comm, List.drop_succ_cons, List.cons_append, List.cons_append, ← ih]

theorem zeroRun_longest (row : groups = before ++ List.replicate n 0 ++ after) :
    n ≤ (zeroRun groups).2 ∧ (n = (zeroRun groups).2 → (zeroRun groups).1 ≤ before.length) := by
  induction groups generalizing before with
  | nil => simp_all [zeroRun]
  | cons group groups ih =>
      rw [zeroRun]
      simp only
      -- A run that begins here is among the zeros counted here, a later one is a run of the rest.
      cases before with
      | nil =>
          have here : n ≤ ((group :: groups).takeWhile (· == 0)).length := by
            rw [row, List.nil_append, List.takeWhile_append_of_pos (by simp), List.length_append, List.length_replicate]
            exact Nat.le_add_right _ _
          split <;> grind
      | cons first before =>
          cases row
          have := ih rfl
          split <;> grind

theorem longestRun_zeroRun : LongestRun groups (groups.take (zeroRun groups).1) (zeroRun groups).2
    (groups.drop ((zeroRun groups).1 + (zeroRun groups).2)) where
  row := zeroRun_row
  longest _ _ _ row := (zeroRun_longest row).1
  first _ _ row := (zeroRun_longest row).2 rfl |> Nat.le_trans (List.length_take_le _ _)

/-! ## The printer -/

theorem textV4_eq_quad : textV4 inner = quad inner := by
  simp [textV4, quad_eq, decimal_eq_toDigits]

theorem textGroups_eq_hextets : textGroups groups = hextets groups := by
  simp only [textGroups, hextets, numeral_eq_toDigits (by decide : 2 ≤ 16) (by decide)]

theorem mapped?_eq_some : mapped? colons = some inner ↔ Maps colons inner := by
  have maps_iff : Maps colons inner ↔ colons.groups = [0, 0, 0, 0, 0, 65535] ++ dottedGroups inner :=
    ⟨Maps.row, Maps.mk⟩
  rw [maps_iff]
  unfold mapped?
  split
  · next high low row =>
      rw [row]
      obtain ⟨a, b, c, d⟩ := inner
      simp only [Option.some.injEq, AddressV4.mk.injEq, dottedGroups, pairGroup, List.cons_append, List.nil_append,
        List.cons.injEq, Fin.ext_iff, true_and, and_true]
      omega
  · next other => exact iff_of_false (Option.some_ne_none inner).symm fun row => other _ _ row

theorem mapped?_eq_none : mapped? colons = none ↔ ∀ inner, ¬ Maps colons inner := by
  simp [Option.eq_none_iff_forall_ne_some, mapped?_eq_some]

theorem pair_iff : [0, 0] <:+: groups ↔ 1 < (zeroRun groups).2 := by
  constructor
  · rintro ⟨before, after, row⟩
    exact (@zeroRun_longest groups before after 2 row.symm).1
  · intro several
    have pair : [0, 0] <+: List.replicate (zeroRun groups).2 (0 : Fin 65536) := by
      rw [← Nat.add_sub_cancel' several, List.replicate_add]
      exact List.prefix_append _ _
    exact pair.isInfix.trans ⟨_, _, zeroRun_row.symm⟩

theorem textColons_eq : textColons colons = if 1 < (zeroRun colons.groups).2 then
    hextets (colons.groups.take (zeroRun colons.groups).1) ++ "::".toList ++
      hextets (colons.groups.drop ((zeroRun colons.groups).1 + (zeroRun colons.groups).2))
    else hextets colons.groups := by
  simp only [textColons, textGroups_eq_hextets]

theorem written_iff : Written address text ↔ text = address.text := by
  constructor
  · intro written
    cases written with
    | dotted inner => exact textV4_eq_quad.symm
    | mapped maps => simp only [Address.text, textV6, mapped?_eq_some.mpr maps, textV4_eq_quad]
    | shortened plain run several =>
        obtain ⟨rfl, rfl, rfl⟩ := run.unique longestRun_zeroRun
        simp only [Address.text, textV6, mapped?_eq_none.mpr plain, textColons_eq]
        exact (if_pos several).symm
    | whole plain lone =>
        simp only [Address.text, textV6, mapped?_eq_none.mpr plain, textColons_eq, if_neg (lone ∘ pair_iff.mpr)]
  · rintro rfl
    cases address with
    | v4 inner =>
        rw [Address.text, textV4_eq_quad]
        exact .dotted inner
    | v6 colons =>
        rw [Address.text, textV6]
        cases mapping : mapped? colons with
        | some inner =>
            simp only [textV4_eq_quad]
            exact .mapped (mapped?_eq_some.mp mapping)
        | none =>
            have plain := mapped?_eq_none.mp mapping
            simp only [textColons_eq]
            split
            · next several => exact .shortened plain longestRun_zeroRun several
            · next single => exact .whole plain (single ∘ pair_iff.mp)

/-! ## Reading back -/

theorem hex_toDigits {group : Fin 65536} : Hex (Nat.toDigits 16 group.val) group := by
  refine ⟨?_, hexReads_toDigits⟩
  rw [Nat.length_toDigits_le_iff (by decide) (by decide)]
  exact group.isLt

theorem groups_hextets (filled : groups ≠ []) : Groups false (hextets groups) groups := by
  induction groups with
  | nil => exact absurd rfl filled
  | cons group rest ih =>
      cases rest with
      | nil => simpa [hextets] using Groups.last hex_toDigits
      | cons next others => simpa [hextets, List.intercalate_cons_cons] using Groups.more hex_toDigits (ih (by simp))

theorem side_hextets : Side false (hextets groups) groups := by
  by_cases empty : groups = []
  · subst empty
    exact .inr ⟨rfl, rfl, rfl⟩
  · exact .inl (groups_hextets empty)

theorem spells_of_written (written : Written address text) : Spells text address := by
  cases written with
  | dotted inner => exact .quad inner
  | @mapped colons inner maps =>
      have ones : Hex "ffff".toList 65535 := @hex_toDigits 65535
      have tail : Side true ("ffff:".toList ++ quad inner) (65535 :: dottedGroups inner) := .inl (.more ones (.dotted inner))
      exact @Spells.shortened _ [] _ [] _ 5 _ (.inr ⟨rfl, rfl, rfl⟩) tail (by decide) maps.row
  | shortened plain run several => 
      rw [List.append_assoc]
      exact .shortened side_hextets side_hextets (by omega) run.row
  | @whole colons plain lone => exact .whole (groups_hextets fun none => absurd (none ▸ colons.size) (by decide))

theorem read?_text : read? address.text = some address := read?_eq_some.mpr (spells_of_written (written_iff.mpr rfl))

end Address
end OverlayFabric
