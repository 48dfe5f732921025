import OverlayFabric.Cloud.Codec
import OverlayFabric.Proofs.Address.Printer

namespace OverlayFabric
open Number Text

namespace GatewayCidr

variable {text : List Char} {address : Address} {length : Nat} {cidr : GatewayCidr}

theorem width_le : address.width ≤ 128 := by
  cases address <;> simp [Address.width]

theorem parts?_eq_some : parts? text = some (address, length) ↔ ∃ left right, text = left ++ '/' :: right ∧
    '/' ∉ left ∧ Address.Spells (trim left) address ∧ Reads 255 (trim right) length := by
  simp only [parts?, readLength?, Option.bind_eq_bind, Option.bind_eq_some_iff, Option.pure_def, Option.some.injEq,
    Prod.mk.injEq, Prod.exists, cut?_eq_some, Address.read?_eq_some, readDecimal_eq_some]
  constructor
  · rintro ⟨left, right, ⟨rfl, first⟩, _, spells, _, reads, rfl, rfl⟩
    exact ⟨left, right, rfl, first, spells, reads⟩
  · rintro ⟨left, right, rfl, first, spells, reads⟩
    exact ⟨left, right, ⟨rfl, first⟩, address, spells, length, reads, rfl, rfl⟩

theorem check_eq_ok : check address length = .ok cidr ↔ cidr.address = address ∧ cidr.prefixLength = length := by
  obtain ⟨own, size, fits⟩ := cidr
  unfold check
  split <;> grind

theorem read_eq_ok : read text = .ok cidr ↔ parts? text = some (cidr.address, cidr.prefixLength) := by
  unfold read
  split
  · next address length found => rw [check_eq_ok, found, Option.some.injEq, Prod.mk.injEq, eq_comm, @eq_comm _ length]
  · next none => simp [none]

theorem text_eq : cidr.text = cidr.address.text ++ '/' :: Nat.toDigits 10 cidr.prefixLength := by
  rw [text, slashText, decimal_eq_toDigits]

theorem read_text : read cidr.text = .ok cidr := by
  have spells := Address.spells_of_written (@Address.written_iff _ cidr.address |>.mpr rfl)
  have plain := Address.plain_of_spells spells
  have fits : cidr.prefixLength ≤ 255 := Nat.le_trans cidr.fits (Nat.le_trans width_le (by decide))
  have bare : trim (decimal cidr.prefixLength) = decimal cidr.prefixLength :=
    trim_of_bare fun c member => isBlank_of_isDigit (isDigit_of_mem_decimal member)
  rw [read_eq_ok, parts?_eq_some]
  refine ⟨_, _, rfl, plain.slash_not_mem, ?_, ?_⟩
  · rwa [trim_of_bare plain.bare]
  · rw [bare]
    exact reads_decimal fits

/-- The text and the value of an address with a prefix length agree: what is printed is the address as it is
written, a slash and the length, and it reads back as the value, from JSON too; a text is read exactly when it has
an address and a length that suits the address on the sides of its first slash; and the printed form of what was
read is read as the same value. -/
theorem text_and_value_agree :
    (∀ cidr : GatewayCidr,
      (∃ left, Address.Written cidr.address left ∧ cidr.text = left ++ '/' :: Nat.toDigits 10 cidr.prefixLength) ∧
        read cidr.text = .ok cidr ∧ decode cidr.encode = some cidr) ∧
    (∀ text cidr, read text = .ok cidr ↔ ∃ left right, text = left ++ '/' :: right ∧ '/' ∉ left ∧
      Address.Spells (trim left) cidr.address ∧ Reads 255 (trim right) cidr.prefixLength) ∧
    (∀ text, (∃ cidr, read text = .ok cidr) ↔ ∃ left right address length, text = left ++ '/' :: right ∧
      '/' ∉ left ∧ Address.Spells (trim left) address ∧ Reads 255 (trim right) length ∧
      length ≤ match address with
        | .v4 _ => 32
        | .v6 _ => 128) ∧
    ∀ text cidr, read text = .ok cidr → read cidr.text = .ok cidr := by
  refine ⟨fun cidr => ⟨⟨_, Address.written_iff.mpr rfl, text_eq⟩, read_text, ?_⟩, fun text cidr => ?_, fun text => ?_, ?_⟩
  · simp [decode, encode, Decode.string, ofText?, read_text, Except.toOption]
  · rw [read_eq_ok, parts?_eq_some]
  · constructor
    · rintro ⟨cidr, accepted⟩
      obtain ⟨left, right, cut, first, spells, reads⟩ := parts?_eq_some.mp (read_eq_ok.mp accepted)
      exact ⟨left, right, cidr.address, cidr.prefixLength, cut, first, spells, reads, cidr.fits⟩
    · rintro ⟨left, right, address, length, cut, first, spells, reads, fits⟩
      exact ⟨⟨address, length, fits⟩, read_eq_ok.mpr (parts?_eq_some.mpr ⟨left, right, cut, first, spells, reads⟩)⟩
  · exact fun text cidr _ => read_text

theorem mapped_text_and_value_agree :
    ∃ cidr : GatewayCidr, read " 0:0::FFFF:102:304 /+064".toList = .ok cidr ∧
      cidr.text = "::ffff:1.2.3.4/64".toList ∧ read cidr.text = .ok cidr := by
  let cidr : GatewayCidr := ⟨.v6 ⟨[0, 0, 0, 0, 0, 65535, 258, 772], rfl⟩, 64, by decide⟩
  have accepted : read " 0:0::FFFF:102:304 /+064".toList = .ok cidr := by
    rw [read_eq_ok]
    decide +kernel
  exact ⟨cidr, accepted, by decide +kernel, text_and_value_agree.2.2.2 _ _ accepted⟩

end GatewayCidr
end OverlayFabric
