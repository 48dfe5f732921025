import OverlayFabric.Proofs.Fabric.Attempts
import OverlayFabric.Proofs.Url.Reference

namespace OverlayFabric
open Text Url

namespace Client

/-- The address of an action on a device: that of the controller, followed by a segment that stands for the device and
nothing else, and by the action. -/
structure IsEndpoint (base : Url) (id action : List Char) (url : Url) : Prop where
  scheme : url.scheme = base.scheme
  authority : url.authority = base.authority
  path : ∃ segment, '/' ∉ segment ∧ percentDecode segment = bytes id ∧
    url.path.text = base.path.text ++ "v2.0/devices/".toList ++ segment ++ '/' :: action
  query : url.query = none
  fragment : url.fragment = none

variable {id action : List Char} {base url : Url} {front : List (List Char)} {c : Char}

/-! ## The reference -/

def release : List Char := ['v', '2', '.', '0']

def devices : List Char := ['d', 'e', 'v', 'i', 'c', 'e', 's']

def reference (id action : List Char) : List Char := release ++ '/' :: (devices ++ '/' :: (id ++ '/' :: action))

def place (front : List (List Char)) (id : List Char) : List (List Char) :=
  (pieces '/' (slashes true (dropBreaks id))).foldl (step false) (devices :: release :: front.reverse)

theorem toList_reference {device name : String} :
    ("v2.0/" ++ s!"devices/{device}/{name}").toList = reference device.toList name.toList := by
  simp [reference, release, devices, String.toList_append, toString]

theorem dropBreaks_reference (ordinary : Ordinary action) :
    dropBreaks (reference id action) = reference (dropBreaks id) action := by
  have unbroken : dropBreaks action = action := dropBreaks_eq_self (isBreak_of_unmarked ordinary.unmarked)
  have word (name rest : List Char) (solid : dropBreaks (name ++ ['/']) = name ++ ['/']) :
      dropBreaks (name ++ '/' :: rest) = name ++ '/' :: dropBreaks rest := by
    rw [List.append_cons, dropBreaks_append, solid, ← List.append_cons]
  rw [reference, word _ _ (by decide), word _ _ (by decide), dropBreaks_append]
  have last := word [] action (by decide)
  rw [unbroken, List.nil_append] at last
  rw [last, reference]

theorem clean_reference (ordinary : Ordinary action) : clean (reference id action) = reference (dropBreaks id) action := by
  obtain ⟨front, last, rfl, bare⟩ := ordinary.closed
  have shape : reference id (front ++ [last]) =
      'v' :: (['2', '.', '0'] ++ '/' :: (devices ++ '/' :: (id ++ '/' :: front))) ++ [last] := by
    simp [reference, release]
  have trimmed : trimEdges (reference id (front ++ [last])) = reference id (front ++ [last]) := by
    rw [shape]
    exact trimEdges_of_bare (by decide) bare
  rw [clean, trimmed, dropBreaks_reference ordinary]

theorem mem_reference (ordinary : Ordinary action) (mark : c ∈ pathMarks) (other : c ≠ '/') :
    c ∈ reference id action ↔ c ∈ id := by
  have above : c ∉ release ∧ c ∉ devices := by
    revert mark
    simp only [pathMarks, List.mem_cons, List.not_mem_nil, or_false]
    rintro (rfl | rfl | rfl | rfl | rfl | rfl | rfl) <;> decide
  simp [reference, above, other, ordinary.not_mem mark]

theorem pieces_reference (ordinary : Ordinary action) : pieces '/' (slashes true (reference id action)) =
    release :: devices :: (pieces '/' (slashes true id) ++ [action]) := by
  have turn (name rest : List Char) (absent : '\\' ∉ name) :
      slashes true (name ++ '/' :: rest) = name ++ '/' :: slashes true rest := by
    rw [slashes_append, slashes_eq_self absent]
    rfl
  have turned : slashes true (reference id action) =
      release ++ '/' :: (devices ++ '/' :: (slashes true id ++ '/' :: action)) := by
    rw [reference, turn _ _ (by decide), turn _ _ (by decide), slashes_append]
    have last := turn [] action (by decide)
    rw [slashes_eq_self (ordinary.not_mem (by decide))] at last
    rw [← List.nil_append ('/' :: action), last]
  have alone (name : List Char) (absent : '/' ∉ name) : pieces '/' name = [name] := by
    rw [pieces_eq_splitOn, List.splitOn_eq_singleton absent]
  have cut (front rest : List Char) : pieces '/' (front ++ '/' :: rest) = pieces '/' front ++ pieces '/' rest := by
    rw [pieces_eq_splitOn, pieces_eq_splitOn, pieces_eq_splitOn, List.splitOn_append_cons_self]
  rw [turned, cut, cut, cut, alone release (by decide), alone devices (by decide), alone action (ordinary.not_mem (by decide))]
  rfl

section Resolve

variable (web : isSpecial base.scheme = true ∧ isFile base.scheme = false) (path : base.path = .segments (front ++ [[]]))
  (ordinary : Ordinary action)
include web path ordinary

theorem resolve_reference : ∃ url, base.resolve (reference id action) = .ok url ∧ url.scheme = base.scheme ∧
    url.authority = base.authority ∧ (url.query = none ∧ url.fragment = none ↔ '#' ∉ id ∧ '?' ∉ id) ∧
    ('#' ∉ id → '?' ∉ id → url.path = .segments ((place front id).reverse ++ [action])) := by
  have unbroken := dropBreaks_eq_self (isBreak_of_unmarked ordinary.unmarked)
  have kept {mark : Char} (listed : mark ∈ pathMarks) (other : mark ≠ '/') (solid : isBreak mark = false) :
      mark ∉ reference (dropBreaks id) action ↔ mark ∉ id := by
    rw [mem_reference ordinary listed other, dropBreaks, List.mem_filter]
    simp [solid]
  have hash := @kept '#' (by decide) (by decide) (by decide)
  have question := @kept '?' (by decide) (by decide) (by decide)
  unfold resolve
  rw [path, clean_reference ordinary]
  refine ⟨_, rfl, rfl, rfl, ?_, fun noHash noMark => ?_⟩
  · simp only [Option.map_eq_none_iff]
    rw [pieces_bare_iff, hash, question]
  · have plain : isDots (dropBreaks action) = false := by
      rw [unbroken]
      exact ordinary.undotted
    rw [pieces_of_bare (hash.mpr noHash) (question.mpr noMark)]
    simp only [web.1, web.2, Bool.false_eq_true, if_false, pieces_reference ordinary, List.dropLast_concat]
    have down (above : List (List Char)) : step false (step false above release) devices = devices :: release :: above := by
      have names : encodeWith keepsInPath (dropBreaks release) = release ∧
          encodeWith keepsInPath (dropBreaks devices) = devices := by decide
      rw [step_of_plain (by decide), step_of_plain (by decide), names.1, names.2]
    rw [← List.cons_append, ← List.cons_append, follow_concat plain, unbroken, ordinary.kept, place, List.foldl_cons,
      List.foldl_cons, down]

end Resolve

/-! ## The segment of the device -/

theorem flat_place (flat : Flat front) : Flat (place front id) :=
  Flat.foldl_step (flat_cons.mpr ⟨by decide, flat_cons.mpr ⟨by decide, flat.reverse⟩⟩) flat_pieces

theorem plain_of_place {segment : List Char} (hash : '#' ∉ id) (mark : '?' ∉ id)
    (reached : place front id = segment :: devices :: release :: front.reverse) (carried : percentDecode segment = bytes id) :
    Plain id := by
  obtain ⟨taken, rise, led, among⟩ :=
    @foldl_step (devices :: release :: front.reverse) (pieces '/' (slashes true (dropBreaks id)))
  unfold place at reached
  rw [reached] at led
  cases taken with
  | nil =>
      have lengths := congrArg List.length led
      simp only [List.map_nil, List.nil_append, List.length_drop, List.length_cons] at lengths
      omega
  | cons name others =>
      have own : segment = encodeWith keepsInPath (dropBreaks name) := (List.cons.inj led).1
      rw [own, percentDecode_encodeWith keepsEscapes_inPath] at carried
      have size := congrArg List.length carried
      have := @length_percentDecode_le (dropBreaks name)
      have := @length_dropBreaks_le name
      have := length_piece_le (among name (.head _))
      have := @length_slashes (dropBreaks id)
      have := @length_dropBreaks_le id
      have unbroken : ∀ c ∈ id, isBreak c = false := by
        have none : id.countP isBreak = 0 := by omega
        exact fun c member => by simpa using List.countP_eq_zero.mp none c member
      have same := dropBreaks_eq_self unbroken
      have flat : '/' ∉ slashes true (dropBreaks id) := List.count_eq_zero.mp (by omega)
      rw [same, slash_mem_slashes, not_or] at flat
      have whole : pieces '/' (slashes true (dropBreaks id)) = [id] := by
        rw [same, slashes_eq_self flat.2, pieces_eq_splitOn, List.splitOn_eq_singleton flat.1]
      have isId : name = id := List.mem_singleton.mp (whole ▸ among name (.head _))
      rw [isId, same] at carried
      have undotted : isDots id = false := by
        rw [whole, List.foldl_cons, List.foldl_nil] at reached
        rcases @step_eq id (devices :: release :: front.reverse) with stay | up | ⟨solid, _⟩
        · exact absurd (congrArg List.length (stay.symm.trans reached)) (by simp)
        · exact absurd (congrArg List.length (up.symm.trans reached)) (by simp)
        · rwa [same] at solid
      refine ⟨fun c member marked => ?_, ⟨?_, ?_⟩, percentDecode_eq_bytes.mp carried⟩
      · simp only [pathMarks, List.mem_cons, List.not_mem_nil, or_false] at marked
        rcases marked with rfl | rfl | rfl | rfl | rfl | rfl | rfl
        · exact flat.1 member
        · exact flat.2 member
        · exact mark member
        · exact hash member
        · exact absurd (unbroken _ member) (by decide)
        · exact absurd (unbroken _ member) (by decide)
        · exact absurd (unbroken _ member) (by decide)
      · rintro rfl
        exact absurd undotted (by decide)
      · rintro rfl
        exact absurd undotted (by decide)

theorem place_of_plain (plain : Plain id) :
    place front id = encodeWith keepsInPath id :: devices :: release :: front.reverse := by
  have unbroken := dropBreaks_eq_self (isBreak_of_unmarked plain.unmarked)
  have whole : pieces '/' (slashes true (dropBreaks id)) = [id] := by
    rw [unbroken, slashes_eq_self (plain.not_mem (by decide)), pieces_eq_splitOn,
      List.splitOn_eq_singleton (plain.not_mem (by decide))]
  have undotted : isDots (dropBreaks id) = false := by
    rw [unbroken]
    refine Bool.eq_false_iff.mpr fun dots => ?_
    rcases eq_dots dots plain.unescaped with one | two
    · exact plain.undotted.1 one
    · exact plain.undotted.2 two
  rw [place, whole, List.foldl_cons, List.foldl_nil, step_of_plain undotted, unbroken]

theorem isEndpoint_iff (web : isSpecial base.scheme = true ∧ isFile base.scheme = false)
    (path : base.path = .segments (front ++ [[]])) (flat : Flat front) (ordinary : Ordinary action)
    (resolved : base.resolve (reference id action) = .ok url) : IsEndpoint base id action url ↔ Plain id := by
  obtain ⟨_, given, scheme, authority, bare, reached⟩ := @resolve_reference id action base front web path ordinary
  cases given.symm.trans resolved
  have text (segment : List Char) : base.path.text ++ "v2.0/devices/".toList ++ segment ++ '/' :: action =
      (UrlPath.segments (front ++ [release, devices, segment] ++ [action])).text := by
    rw [path]
    simp [UrlPath.text, release, devices]
  constructor
  · intro endpoint
    obtain ⟨hash, mark⟩ := bare.mp ⟨endpoint.query, endpoint.fragment⟩
    obtain ⟨segment, closed, carried, spelled⟩ := endpoint.path
    rw [reached hash mark, text] at spelled
    have actionFlat : Flat [action] := flat_cons.mpr ⟨ordinary.not_mem (by decide), flat_nil⟩
    have named : Flat [release, devices, segment] :=
      flat_cons.mpr ⟨by decide, flat_cons.mpr ⟨by decide, flat_cons.mpr ⟨closed, flat_nil⟩⟩⟩
    have same := segments_eq_of_text ((flat_place flat).reverse.append actionFlat)
      ((flat.append named).append actionFlat) spelled
    refine @plain_of_place id front segment hash mark ?_ carried
    rw [← List.reverse_reverse (place front id), (List.append_inj' same rfl).1]
    simp
  · intro plain
    have hash := @plain.not_mem _ '#' (by decide)
    have mark := @plain.not_mem _ '?' (by decide)
    obtain ⟨query, fragment⟩ := bare.mpr ⟨hash, mark⟩
    have closed : '/' ∉ encodeWith keepsInPath id := slash_not_mem_encodeWith (plain.not_mem (by decide))
    refine ⟨scheme, authority, ⟨encodeWith keepsInPath id, closed, ?_, ?_⟩, query, fragment⟩
    · rw [percentDecode_encodeWith keepsEscapes_inPath, percentDecode_eq_bytes]
      exact plain.unescaped
    · rw [text, reached hash mark, place_of_plain plain]
      simp

end Client
end OverlayFabric
