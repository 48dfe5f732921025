import OverlayFabric.Cloud.Codec
import OverlayFabric.Proofs.Address.Printer
import OverlayFabric.Proofs.Json.Record

namespace OverlayFabric
open Json

variable {α : Type} {decode : Decode α} {encode : α → Json} {depth : Nat} {json : Json} {name : String} {value : α}

/-! ## Values of fields -/

theorem Decode.word_eq_some {n : Nat} : Decode.word json = some n ↔ json = .int n ∧ n ≤ Number.wordLimit := by
  cases json with
  | int value =>
      rw [word, natUpTo, Option.ite_none_right_eq_some, Option.some.injEq, Json.int.injEq]
      omega
  | _ => simp [word, natUpTo]

theorem Decode.word32_eq_some {id : UInt32} : Decode.word32 json = some id ↔ json = .int id.toNat := by
  have small := id.toNat_lt
  rw [word32, Option.map_eq_some_iff]
  constructor
  · rintro ⟨n, read, rfl⟩
    obtain ⟨rfl, bound⟩ := word_eq_some.mp read
    have fits : n < 2 ^ 32 := Nat.lt_succ_of_le bound
    rw [UInt32.toNat_ofNat_of_lt' fits]
  · rintro rfl
    exact ⟨id.toNat, word_eq_some.mpr ⟨rfl, Nat.le_of_lt_succ small⟩, UInt32.ofNat_toNat⟩

theorem VlanId.decode_eq_some {vlan : VlanId} : VlanId.decode json = some vlan ↔ json = .int vlan.val := by
  rw [VlanId.decode, Option.bind_eq_some_iff]
  constructor
  · rintro ⟨n, read, made⟩
    rw [(Decode.word_eq_some.mp read).1, VlanId.ofNat?_eq_some_iff.mp made]
  · rintro rfl
    exact ⟨vlan.val, Decode.word_eq_some.mpr ⟨rfl, Nat.le_trans vlan.le_top (by decide)⟩, vlan.ofNat?_val⟩

theorem SegmentId.decode_eq_some {segment : SegmentId} : SegmentId.decode json = some segment ↔ json = .int segment.val := by
  rw [SegmentId.decode, Option.bind_eq_some_iff]
  constructor
  · rintro ⟨n, read, made⟩
    rw [(Decode.word_eq_some.mp read).1, SegmentId.ofNat?_eq_some_iff.mp made]
  · rintro rfl
    exact ⟨segment.val, Decode.word_eq_some.mpr ⟨rfl, Nat.le_trans segment.le_top (by decide)⟩, segment.ofNat?_val⟩

theorem VlanId.decode_encode (vlan : VlanId) : VlanId.decode vlan.encode = some vlan := decode_eq_some.mpr rfl

theorem SegmentId.decode_encode (segment : SegmentId) : SegmentId.decode segment.encode = some segment := decode_eq_some.mpr rfl

theorem Address.decode_encode (address : Address) : Address.decode address.encode = some address := by
  rw [Address.decode, Address.encode, Decode.string, Option.bind_some, String.toList_ofList, read?_text]

theorem PortStatus.decode_encode (status : PortStatus) : PortStatus.decode status.encode = some status := by
  cases status <;> decide

theorem SegmentKind.decode_encode (kind : SegmentKind) : SegmentKind.decode kind.encode = some kind := by
  cases kind <;> decide

theorem Decode.nullable_of_ne_null (solid : json ≠ .null) : Decode.nullable decode json = (decode json).map some := by
  cases json with
  | null => exact absurd rfl solid
  | _ => rfl

theorem Decode.nullable_option {given : Option α} (solid : ∀ value, encode value ≠ .null)
    (restored : ∀ value, decode (encode value) = some value) :
    Decode.nullable decode (.option encode given) = some given := by
  cases given with
  | none => rfl
  | some value =>
      rw [Json.option, nullable_of_ne_null (solid value), restored]
      rfl

theorem VlanId.legible_encode (vlan : VlanId) : Legible depth vlan.encode := by
  have := vlan.le_top
  exact .int ⟨by omega, by omega⟩

theorem SegmentId.legible_encode (segment : SegmentId) : Legible depth segment.encode := by
  have := segment.le_top
  exact .int ⟨by omega, by omega⟩

theorem Address.legible_encode (address : Address) : Legible depth address.encode := .str

theorem Json.legible_word (id : UInt32) : Legible depth (.nat id.toNat) := by
  have := id.toNat_lt
  exact .int ⟨by omega, by omega⟩

/-! ## Records -/

theorem Port.faithful : Faithful Port.decode Port.encode Port.fieldNames [] := by
  refine .of_takes (fun _ => rfl) (.get fun _ => .get fun _ => .get fun _ => .get fun _ => .get fun _ => .get fun _ => .done)
    rfl (by decide) (fun _ => ⟨rfl, rfl⟩) fun port => ?_
  exact .get .str rfl <| .get .str rfl <| .get .str rfl <| .get .str rfl <| .get .str rfl <|
    .get .str port.status.decode_encode .done

theorem PortSegments.faithful : Faithful PortSegments.decode PortSegments.encode PortSegments.fieldNames [] := by
  refine .of_takes (fun _ => rfl) (.get fun _ => .get fun _ => .get fun _ => .done) rfl (by decide) (fun _ => ⟨rfl, rfl⟩)
    fun segments => ?_
  exact .get segments.overlay.legible_encode segments.overlay.decode_encode <|
    .get segments.vlan.legible_encode segments.vlan.decode_encode <| .get .str rfl .done

theorem Subnet.faithful : Faithful Subnet.decode Subnet.encode Subnet.fieldNames ["gateway_ip"] := by
  refine .of_takes (fun _ => rfl) (.get fun _ => .get fun _ => .get fun _ => .option fun _ => .done) rfl (by decide)
    (fun _ => ⟨rfl, rfl⟩) fun subnet => ?_
  have gateway : Decode.nullable Address.decode (.option Address.encode subnet.gatewayIp) = some subnet.gatewayIp :=
    Decode.nullable_option nofun Address.decode_encode
  exact .get .str rfl <| .get .str rfl <| .get .str rfl <| .option (legible_option Address.legible_encode) gateway .done

theorem NetworkSegment.faithful : Faithful NetworkSegment.decode NetworkSegment.encode NetworkSegment.fieldNames
    ["physical_network", "segmentation_id"] := by
  refine .of_takes (fun _ => rfl) (.get fun _ => .get fun _ => .option fun _ => .option fun _ => .done) rfl (by decide)
    (fun _ => ⟨rfl, rfl⟩) fun segment => ?_
  have network : Decode.nullable .string (.option .str segment.physicalNetwork) = some segment.physicalNetwork :=
    Decode.nullable_option nofun fun _ => rfl
  have id : Decode.nullable .word32 (.option (fun id => .nat id.toNat) segment.segmentationId) = some segment.segmentationId :=
    Decode.nullable_option nofun fun _ => Decode.word32_eq_some.mpr rfl
  exact .get .str rfl <| .get .str segment.kind.decode_encode <| .option (legible_option fun _ => .str) network <|
    .option (legible_option legible_word) id .done

theorem ExternalGateway.faithful :
    Faithful ExternalGateway.decode ExternalGateway.encode ExternalGateway.fieldNames [] := by
  refine .of_takes (fun _ => rfl) (.get fun _ => .get fun _ => .get fun _ => .done) rfl (by decide) (fun _ => ⟨rfl, rfl⟩)
    fun gateway => ?_
  exact .get .str rfl <| .get .str rfl <| .get .str gateway.fixedIp.decode_encode .done

theorem ExternalGateway.legible_encode (gateway : ExternalGateway) : Legible (depth + 1) gateway.encode :=
  legible_object (by simp [Legible.str, Address.legible_encode])

theorem Router.faithful : Faithful Router.decode Router.encode Router.fieldNames ["external_gateway"] := by
  refine .of_takes (fun _ => rfl) (.get fun _ => .get fun _ => .option fun _ => .done) rfl (by decide)
    (fun _ => ⟨rfl, rfl⟩) fun router => ?_
  have gateway : Decode.nullable ExternalGateway.decode (.option ExternalGateway.encode router.externalGateway) =
      some router.externalGateway := Decode.nullable_option nofun ExternalGateway.faithful.restored
  exact .get .str rfl <| .get .str rfl <| .option (legible_option ExternalGateway.legible_encode) gateway .done

theorem RouterInterface.faithful :
    Faithful RouterInterface.decode RouterInterface.encode RouterInterface.fieldNames [] := by
  refine .of_takes (fun _ => rfl) (.get fun _ => .get fun _ => .get fun _ => .get fun _ => .done) rfl (by decide)
    (fun _ => ⟨rfl, rfl⟩) fun interface => ?_
  exact .get .str rfl <| .get .str rfl <| .get .str rfl <| .get .str rfl .done

theorem DynamicSegment.faithful :
    Faithful DynamicSegment.decode DynamicSegment.encode DynamicSegment.fieldNames [] := by
  refine .of_takes (fun _ => rfl) (.get fun _ => .get fun _ => .get fun _ => .done) rfl (by decide) (fun _ => ⟨rfl, rfl⟩)
    fun segment => ?_
  exact .get .str rfl <| .get .str rfl <| .get segment.vlan.legible_encode segment.vlan.decode_encode .done

/-! ## Parts -/

theorem Json.part_of_get {fields : Fields} {names : List String} (read : Fields.of? names json = some fields)
    (given : fields.get name decode = some value) : ∃ part, json.part? names name = some part ∧ decode part = some value := by
  obtain ⟨part, found, decoded⟩ := Option.bind_eq_some_iff.mp given
  exact ⟨part, by rw [Json.part?, read, Option.bind_some, found], decoded⟩

theorem Json.part_of_getOption {fields : Fields} {names : List String} {given : Option α}
    (read : Fields.of? names json = some fields) (taken : fields.getOption name decode = some given) :
    given = none ∧ (json.part? names name = none ∨ json.part? names name = some .null) ∨
      ∃ value part, given = some value ∧ json.part? names name = some part ∧ decode part = some value := by
  have place : json.part? names name = findKey? name fields.entries := by rw [Json.part?, read, Option.bind_some]
  rw [place]
  unfold Fields.getOption at taken
  cases found : findKey? name fields.entries with
  | none =>
      rw [found] at taken
      refine .inl ⟨?_, .inl rfl⟩
      cases place : fields.byPlace <;> simp only [place] at taken <;> cases taken
      rfl
  | some part =>
      rw [found] at taken
      by_cases null : part = .null
      · subst null
        cases taken
        exact .inl ⟨rfl, .inr rfl⟩
      · obtain ⟨value, decoded, rfl⟩ := Option.map_eq_some_iff.mp ((Decode.nullable_of_ne_null null).symm.trans taken)
        exact .inr ⟨value, part, rfl, rfl, decoded⟩

/-- In whatever is read as such a record, this field is a whole number within the bounds. -/
def Bounded (decode : Decode α) (names : List String) (name : String) (least most : Nat) : Prop :=
  ∀ json, (decode json).isSome = true → ∃ n : Nat, json.part? names name = some (.int n) ∧ least ≤ n ∧ n ≤ most

theorem PortSegments.parts {segments : PortSegments} (accepted : PortSegments.decode json = some segments) :
    json.part? PortSegments.fieldNames "overlay" = some (.int segments.overlay.val) ∧
      json.part? PortSegments.fieldNames "vlan" = some (.int segments.vlan.val) := by
  obtain ⟨fields, read, accepted⟩ := Option.bind_eq_some_iff.mp accepted
  obtain ⟨overlay, first, accepted⟩ := Option.bind_eq_some_iff.mp accepted
  obtain ⟨vlan, second, accepted⟩ := Option.bind_eq_some_iff.mp accepted
  obtain ⟨_, _, accepted⟩ := Option.bind_eq_some_iff.mp accepted
  cases accepted
  obtain ⟨part, found, decoded⟩ := part_of_get read first
  obtain ⟨other, also, read⟩ := part_of_get read second
  rw [found, also, SegmentId.decode_eq_some.mp decoded, VlanId.decode_eq_some.mp read]
  exact ⟨rfl, rfl⟩

theorem DynamicSegment.parts {segment : DynamicSegment} (accepted : DynamicSegment.decode json = some segment) :
    json.part? DynamicSegment.fieldNames "vlan" = some (.int segment.vlan.val) := by
  obtain ⟨fields, read, accepted⟩ := Option.bind_eq_some_iff.mp accepted
  obtain ⟨_, _, accepted⟩ := Option.bind_eq_some_iff.mp accepted
  obtain ⟨_, _, accepted⟩ := Option.bind_eq_some_iff.mp accepted
  obtain ⟨vlan, given, accepted⟩ := Option.bind_eq_some_iff.mp accepted
  cases accepted
  obtain ⟨part, found, decoded⟩ := part_of_get read given
  rw [found, VlanId.decode_eq_some.mp decoded]

theorem NetworkSegment.parts {segment : NetworkSegment} (accepted : NetworkSegment.decode json = some segment) :
    segment.segmentationId = none ∧ (json.part? NetworkSegment.fieldNames "segmentation_id" = none ∨
        json.part? NetworkSegment.fieldNames "segmentation_id" = some .null) ∨
      ∃ id : UInt32, segment.segmentationId = some id ∧
        json.part? NetworkSegment.fieldNames "segmentation_id" = some (.int id.toNat) := by
  obtain ⟨fields, read, accepted⟩ := Option.bind_eq_some_iff.mp accepted
  obtain ⟨_, _, accepted⟩ := Option.bind_eq_some_iff.mp accepted
  obtain ⟨_, _, accepted⟩ := Option.bind_eq_some_iff.mp accepted
  obtain ⟨_, _, accepted⟩ := Option.bind_eq_some_iff.mp accepted
  obtain ⟨given, taken, accepted⟩ := Option.bind_eq_some_iff.mp accepted
  cases accepted
  rcases part_of_getOption read taken with nothing | ⟨id, part, rfl, found, decoded⟩
  · exact .inl nothing
  · exact .inr ⟨id, rfl, by rw [found, Decode.word32_eq_some.mp decoded]⟩

theorem PortSegments.bounded : Bounded PortSegments.decode PortSegments.fieldNames "vlan" 1 4094 ∧
    Bounded PortSegments.decode PortSegments.fieldNames "overlay" 1 16777215 := by
  constructor
  · intro json accepted
    obtain ⟨segments, accepted⟩ := Option.isSome_iff_exists.mp accepted
    exact ⟨_, (parts accepted).2, segments.vlan.pos, segments.vlan.le_top⟩
  · intro json accepted
    obtain ⟨segments, accepted⟩ := Option.isSome_iff_exists.mp accepted
    exact ⟨_, (parts accepted).1, segments.overlay.pos, segments.overlay.le_top⟩

theorem DynamicSegment.bounded : Bounded DynamicSegment.decode DynamicSegment.fieldNames "vlan" 1 4094 := by
  intro json accepted
  obtain ⟨segment, accepted⟩ := Option.isSome_iff_exists.mp accepted
  exact ⟨_, parts accepted, segment.vlan.pos, segment.vlan.le_top⟩

/-- What the cloud tells survives its JSON form: every object is read back from it, and whatever is read as an object is
written in a form that is read as the same object and written as it is. -/
theorem objects_survive_json :
    Faithful Port.decode Port.encode Port.fieldNames [] ∧
      Faithful PortSegments.decode PortSegments.encode PortSegments.fieldNames [] ∧
      Faithful Subnet.decode Subnet.encode Subnet.fieldNames ["gateway_ip"] ∧
      Faithful NetworkSegment.decode NetworkSegment.encode NetworkSegment.fieldNames
        ["physical_network", "segmentation_id"] ∧
      Faithful ExternalGateway.decode ExternalGateway.encode ExternalGateway.fieldNames [] ∧
      Faithful Router.decode Router.encode Router.fieldNames ["external_gateway"] ∧
      Faithful RouterInterface.decode RouterInterface.encode RouterInterface.fieldNames [] ∧
      Faithful DynamicSegment.decode DynamicSegment.encode DynamicSegment.fieldNames [] ∧
      Bounded PortSegments.decode PortSegments.fieldNames "vlan" 1 4094 ∧
      Bounded PortSegments.decode PortSegments.fieldNames "overlay" 1 16777215 ∧
      Bounded DynamicSegment.decode DynamicSegment.fieldNames "vlan" 1 4094 ∧
      ∀ json segment, NetworkSegment.decode json = some segment →
        segment.segmentationId = none ∧ (json.part? NetworkSegment.fieldNames "segmentation_id" = none ∨
            json.part? NetworkSegment.fieldNames "segmentation_id" = some .null) ∨
          ∃ id : UInt32, segment.segmentationId = some id ∧
            json.part? NetworkSegment.fieldNames "segmentation_id" = some (.int id.toNat) :=
  ⟨Port.faithful, PortSegments.faithful, Subnet.faithful, NetworkSegment.faithful, ExternalGateway.faithful,
    Router.faithful, RouterInterface.faithful, DynamicSegment.faithful, PortSegments.bounded.1, PortSegments.bounded.2,
    DynamicSegment.bounded, fun _ _ => NetworkSegment.parts⟩

theorem gateway_survives_json :
    let json : Json := .obj [("fixed_ip", .str "2001:DB8:0:0:0:0:0:1"), ("network_id", .str "n"), ("note", .bool true),
      ("subnet_id", .str "s")]
    let gateway : ExternalGateway := ⟨"n", "s", .v6 ⟨[0x2001, 0xdb8, 0, 0, 0, 0, 0, 1], rfl⟩⟩
    let reserved : Json := .obj [("overlay", .int 5000), ("physical_network", .str "p"), ("vlan", .int 4095)]
    ExternalGateway.decode json = some gateway ∧
      gateway.encode.text = "\x7b\"fixed_ip\":\"2001:db8::1\",\"network_id\":\"n\",\"subnet_id\":\"s\"\x7d" ∧
      Json.ofText? gateway.encode.text = some gateway.encode ∧ ExternalGateway.decode gateway.encode = some gateway ∧
      PortSegments.decode reserved = none := by
  intro json gateway reserved
  obtain ⟨_, _, _, _, form, _, _, _, bounded, _⟩ := objects_survive_json
  have accepted : ExternalGateway.decode json = some gateway := by decide +kernel
  have settled := (form.settled json gateway.encode (by rw [accepted]; rfl)).1
  refine ⟨accepted, by decide +kernel, form.legible gateway, settled.trans accepted, ?_⟩
  cases read : PortSegments.decode reserved with
  | none => rfl
  | some segments =>
      obtain ⟨n, part, _, most⟩ := bounded reserved (by rw [read]; rfl)
      cases part
      exact absurd most (by decide)

end OverlayFabric
