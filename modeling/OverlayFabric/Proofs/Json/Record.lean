import OverlayFabric.Json.Record
import OverlayFabric.Proofs.Json.Text

namespace OverlayFabric
open Json Number

variable {α : Type} {decode : Decode α} {encode : α → Json} {depth : Nat} {value : α} {fields : List (String × Json)}
  {name : String} {names required optional : List String} {read : Fields → Option α}

def Json.part? (names : List String) (name : String) (json : Json) : Option Json :=
  (Fields.of? names json).bind fun fields => findKey? name fields.entries

/-- A written form that loses nothing, beside others that come to it. -/
structure Faithful (decode : Decode α) (encode : α → Json) (names optional : List String) : Prop where
  restored : ∀ value, decode (encode value) = some value
  legible : ∀ value, Json.ofText? (encode value).text = some (encode value)
  settled : ∀ json written, (decode json).map encode = some written →
    decode written = decode json ∧ (decode written).map encode = some written
  unknown : ∀ fields, decode (.obj (fields.filter fun field => names.contains field.1)) = decode (.obj fields)
  absent : ∀ name ∈ optional, ∀ fields, findKey? name fields = none →
    decode (.obj ((name, .null) :: fields)) = decode (.obj fields)
  required : ∀ name ∈ names, name ∉ optional → ∀ fields, findKey? name fields = none → decode (.obj fields) = none

/-! ## Objects -/

theorem Json.legible_object (each : ∀ field ∈ fields, Legible depth field.2) : Legible (depth + 1) (.object fields) := by
  have onto (map : List (String × Json)) (sorted : map.Pairwise fun a b => a.1 < b.1)
      (legible : ∀ field ∈ map, Legible depth field.2) :
      (fields.foldl (fun map field => insertKey field.1 field.2 map) map).Pairwise (fun a b => a.1 < b.1) ∧
        ∀ field ∈ fields.foldl (fun map field => insertKey field.1 field.2 map) map, Legible depth field.2 := by
    induction fields generalizing map with
    | nil => exact ⟨sorted, legible⟩
    | cons field rest ih =>
        obtain ⟨first, later⟩ := List.forall_mem_cons.mp each
        refine ih later _ (sorted_insertKey field.1 field.2 sorted) fun other member => ?_
        rcases mem_insertKey member with rfl | known
        · exact first
        · exact legible other known
  obtain ⟨sorted, legible⟩ := onto [] .nil (List.forall_mem_nil _)
  exact .obj sorted legible

theorem Json.legible_option {given : Option α} (each : ∀ value, Legible depth (encode value)) :
    Legible depth (.option encode given) := by
  cases given with
  | none => exact .null
  | some value => exact each value

/-! ## Readers -/

/-- A reader that takes some fields and some options, each once it has taken those before it. -/
inductive Takes : List String → List String → (Fields → Option α) → Prop
  | done {value : α} : Takes [] [] fun _ => some value
  | get {β : Type} {decode : Decode β} {next : β → Fields → Option α} {name : String} {required optional : List String}
      (later : ∀ value, Takes required optional (next value)) :
      Takes (name :: required) optional fun fields => (fields.get name decode).bind fun value => next value fields
  | option {β : Type} {decode : Decode β} {next : Option β → Fields → Option α} {name : String}
      {required optional : List String} (later : ∀ value, Takes required optional (next value)) :
      Takes required (name :: optional) fun fields => (fields.getOption name decode).bind fun value => next value fields

theorem Takes.congr (takes : Takes required optional read) {fields others : Fields} (place : others.byPlace = fields.byPlace)
    (same : ∀ name, name ∈ required ∨ name ∈ optional → findKey? name others.entries = findKey? name fields.entries) :
    read others = read fields := by
  induction takes with
  | done => rfl
  | get later ih =>
      have here := same _ (.inl (.head _))
      simp only [Fields.get, here]
      exact congrArg _ (funext fun value => ih value fun name listed => same name (listed.imp_left (.tail _)))
  | option later ih =>
      have here := same _ (.inr (.head _))
      simp only [Fields.getOption, here, place]
      exact congrArg _ (funext fun value => ih value fun name listed => same name (listed.imp_right (.tail _)))

theorem Takes.absent (takes : Takes required optional read) (apart : name ∉ required) (none : findKey? name fields = none) :
    read ⟨false, (name, .null) :: fields⟩ = read ⟨false, fields⟩ := by
  induction takes with
  | done => rfl
  | get later ih =>
      rw [List.mem_cons, not_or] at apart
      simp only [Fields.get, findKey?, if_neg apart.1]
      exact congrArg _ (funext fun value => ih value apart.2)
  | @option _ decode _ other _ _ later ih =>
      have here : Fields.getOption ⟨false, (name, .null) :: fields⟩ other decode =
          Fields.getOption ⟨false, fields⟩ other decode := by
        by_cases same : name = other
        · subst same
          rw [Fields.getOption, findKey?, if_pos rfl, Fields.getOption, none]
          rfl
        · rw [Fields.getOption, findKey?, if_neg same, Fields.getOption]
      simp only [here]
      exact congrArg _ (funext fun value => ih value apart)

theorem Takes.refuses (takes : Takes required optional read) (listed : name ∈ required) (none : findKey? name fields = none) :
    read ⟨false, fields⟩ = .none := by
  induction takes with
  | done => cases listed
  | get later ih =>
      rcases List.mem_cons.mp listed with rfl | listed
      · simp [Fields.get, none]
      · simp [fun value => ih value listed]
  | option later ih => simp [fun value => ih value listed]

/-- From these fields, all of them legible, a reader comes to this value. -/
inductive Gives (depth : Nat) : List (String × Json) → (Fields → Option α) → α → Prop
  | done {value : α} : Gives depth [] (fun _ => some value) value
  | get {β : Type} {decode : Decode β} {part : β} {next : β → Fields → Option α} {name : String} {json : Json}
      {fields : List (String × Json)} {value : α} (legible : Legible depth json) (decoded : decode json = some part)
      (later : Gives depth fields (next part) value) :
      Gives depth ((name, json) :: fields) (fun fields => (fields.get name decode).bind fun part => next part fields) value
  | option {β : Type} {decode : Decode β} {part : Option β} {next : Option β → Fields → Option α} {name : String}
      {json : Json} {fields : List (String × Json)} {value : α} (legible : Legible depth json)
      (decoded : Decode.nullable decode json = some part) (later : Gives depth fields (next part) value) :
      Gives depth ((name, json) :: fields) (fun fields => (fields.getOption name decode).bind fun part => next part fields)
        value

theorem Gives.legible (gives : Gives depth fields read value) : ∀ field ∈ fields, Legible depth field.2 := by
  induction gives with
  | done => exact nofun
  | get legible _ _ ih => exact List.forall_mem_cons.mpr ⟨legible, ih⟩
  | option legible _ _ ih => exact List.forall_mem_cons.mpr ⟨legible, ih⟩

theorem Gives.taken (gives : Gives depth fields read value) {entries : List (String × Json)}
    (found : ∀ field ∈ fields, findKey? field.1 entries = some field.2) : read ⟨false, entries⟩ = some value := by
  induction gives with
  | done => rfl
  | get _ decoded _ ih =>
      obtain ⟨first, later⟩ := List.forall_mem_cons.mp found
      simp only [Fields.get, first, Option.bind_some, decoded]
      exact ih later
  | option _ decoded _ ih =>
      obtain ⟨first, later⟩ := List.forall_mem_cons.mp found
      simp only [Fields.getOption, first, decoded, Option.bind_some]
      exact ih later

theorem findKey?_filter (listed : name ∈ names) :
    findKey? name (fields.filter fun field => names.contains field.1) = findKey? name fields := by
  induction fields with
  | nil => rfl
  | cons field rest ih =>
      rw [List.filter_cons]
      split
      · rw [findKey?, findKey?, ih]
      · next dropped =>
          have differ : field.1 ≠ name := by
            rintro rfl
            exact dropped (by simpa using listed)
          rw [findKey?, if_neg differ, ih]

theorem Faithful.of_takes {form : α → List (String × Json)} (reads : ∀ json, decode json = (Fields.of? names json).bind read)
    (takes : Takes required optional read) (split : names = required ++ optional) (distinct : names.Nodup)
    (writes : ∀ value, encode value = .object (form value) ∧ (form value).map Prod.fst = names)
    (gives : ∀ value, Gives 126 (form value) read value) : Faithful decode encode names optional := by
  have object (fields : List (String × Json)) : decode (.obj fields) = read ⟨false, fields⟩ := by
    rw [reads, Fields.of?, Option.bind_some]
  have restored (value : α) : decode (encode value) = some value := by
    obtain ⟨written, names⟩ := writes value
    rw [written, Json.object, object]
    exact (gives value).taken (Keyed.findKey?_foldl (names ▸ distinct))
  have legible (value : α) : Legible depthLimit (encode value) := by
    rw [(writes value).1]
    exact legible_object (gives value).legible
  refine ⟨restored, fun value => ofText?_text (legible value), fun json written again => ?_, fun fields => ?_,
    fun name listed fields none => ?_, fun name listed given fields none => ?_⟩
  · obtain ⟨value, accepted, rfl⟩ := Option.map_eq_some_iff.mp again
    rw [restored, accepted]
    exact ⟨rfl, rfl⟩
  · rw [object, object]
    refine takes.congr rfl fun name listed => findKey?_filter ?_
    rw [split]
    exact List.mem_append.mpr listed
  · rw [split] at distinct
    have apart : name ∉ required := fun needed => (List.nodup_append.mp distinct).2.2 name needed name listed rfl
    rw [object, object, takes.absent apart none]
  · rw [split] at listed
    rw [object, takes.refuses ((List.mem_append.mp listed).resolve_right given) none]

end OverlayFabric
