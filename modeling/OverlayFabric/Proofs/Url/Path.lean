import OverlayFabric.Proofs.Result
import OverlayFabric.Proofs.Url.Encode
import OverlayFabric.Url.Reader

namespace OverlayFabric.Url
open Text

variable {cs segment last : List Char} {above names front segments others : List (List Char)} {url : Url}

def Flat (segments : List (List Char)) : Prop := ∀ segment ∈ segments, '/' ∉ segment

theorem flat_nil : Flat [] := List.forall_mem_nil _

theorem flat_cons : Flat (segment :: segments) ↔ '/' ∉ segment ∧ Flat segments := List.forall_mem_cons

theorem Flat.append (first : Flat segments) (second : Flat others) : Flat (segments ++ others) :=
  fun segment member => (List.mem_append.mp member).elim (first segment) (second segment)

theorem Flat.reverse (flat : Flat segments) : Flat segments.reverse :=
  fun segment member => flat segment (List.mem_reverse.mp member)

/-! ## Pieces -/

theorem flat_pieces : Flat (pieces '/' cs) := by
  induction cs with
  | nil => simp [Flat, pieces]
  | cons c rest ih =>
      unfold pieces
      split
      · exact flat_cons.mpr ⟨List.not_mem_nil, ih⟩
      · next other =>
          split
          · simp [Flat, Ne.symm other]
          · next piece others parts =>
              rw [parts] at ih
              obtain ⟨first, later⟩ := flat_cons.mp ih
              exact flat_cons.mpr ⟨by simp [Ne.symm other, first], later⟩

theorem length_piece_le (member : segment ∈ pieces '/' cs) :
    (bytes segment).length + cs.count '/' ≤ (bytes cs).length := by
  induction cs generalizing segment with
  | nil => simp_all [pieces]
  | cons c rest ih =>
      unfold pieces at member
      split at member
      · next slash =>
          have size : Char.utf8Size '/' = 1 := rfl
          rw [slash, List.count_cons_self, length_bytes_cons, size]
          rcases List.mem_cons.mp member with rfl | later
          · obtain ⟨piece, given⟩ := List.exists_mem_of_ne_nil _ (pieces_ne_nil '/' rest)
            have := ih given
            simp only [bytes, List.flatMap_nil, List.length_nil] at *
            omega
          · have := ih later
            omega
      · next other =>
          rw [List.count_cons_of_ne other, length_bytes_cons]
          split at member
          · next none => exact absurd none (pieces_ne_nil '/' rest)
          · next piece others parts =>
              rw [parts] at ih
              rcases List.mem_cons.mp member with rfl | later
              · have := ih (.head _)
                rw [length_bytes_cons]
                omega
              · have := ih (.tail _ later)
                omega

theorem intercalate_slash : ['/'].intercalate (segment :: segments) = segment ++ (UrlPath.segments segments).text := by
  induction segments generalizing segment with
  | nil => simp [UrlPath.text]
  | cons next rest ih =>
      rw [List.intercalate_cons_cons, ih, UrlPath.text, UrlPath.text, List.flatMap_cons]
      simp

theorem segments_eq_of_text (flat : Flat segments) (also : Flat others)
    (same : (UrlPath.segments segments).text = (UrlPath.segments others).text) : segments = others := by
  have parts {list : List (List Char)} (flat : Flat list) : (UrlPath.segments list).text.splitOn '/' = [] :: list := by
    rw [← List.nil_append (UrlPath.segments list).text, ← intercalate_slash,
      List.splitOn_intercalate '/' (flat_cons.mpr ⟨List.not_mem_nil, flat⟩) (List.cons_ne_nil _ _)]
  have both := (parts flat).symm.trans ((congrArg (List.splitOn '/') same).trans (parts also))
  exact (List.cons.inj both).2

/-! ## Steps -/

theorem slash_not_mem_encodeWith {keep : Char → Bool} (absent : '/' ∉ cs) : '/' ∉ encodeWith keep cs := by
  have digits : ∀ n < 16, upperDigit n ≠ '/' := by decide
  have escapes (byte : UInt8) : '/' ∉ percent byte := by
    have small : byte.toNat < 256 := byte.toNat_lt
    have high := digits (byte.toNat / 16) (by omega)
    have low := digits (byte.toNat % 16) (by omega)
    simp [percent, high.symm, low.symm]
  intro member
  obtain ⟨c, given, written⟩ := List.mem_flatMap.mp member
  unfold encodeChar at written
  split at written
  · rw [List.mem_singleton.mp written] at absent
    exact absent given
  · obtain ⟨byte, _, written⟩ := List.mem_flatMap.mp written
    exact escapes byte written

theorem slash_not_mem_dropBreaks (absent : '/' ∉ cs) : '/' ∉ dropBreaks cs :=
  fun member => absent (List.mem_of_mem_filter member)

theorem step_eq : step false above segment = above ∨ step false above segment = above.tail ∨
    isDots (dropBreaks segment) = false ∧ step false above segment = encodeWith keepsInPath (dropBreaks segment) :: above := by
  simp only [step, isDots, Bool.false_and, Bool.false_eq_true, if_false]
  split_ifs with double drive single
  · exact .inl rfl
  · exact .inr (.inl rfl)
  · exact .inl rfl
  · exact .inr (.inr ⟨by simp [double, single], rfl⟩)

theorem step_of_plain (plain : isDots (dropBreaks segment) = false) :
    step false above segment = encodeWith keepsInPath (dropBreaks segment) :: above := by
  obtain ⟨double, single⟩ := Bool.or_eq_false_iff.mp plain
  simp [step, double, single]

theorem Flat.step (flat : Flat above) (absent : '/' ∉ segment) : Flat (step false above segment) := by
  rcases @step_eq segment above with same | up | ⟨_, down⟩
  · rwa [same]
  · rw [up]
    exact fun segment member => flat segment (List.mem_of_mem_tail member)
  · rw [down]
    exact flat_cons.mpr ⟨slash_not_mem_encodeWith (slash_not_mem_dropBreaks absent), flat⟩

/-- The segments of the place that steps lead to: some of those that were stepped on, above some that were there. -/
theorem foldl_step : ∃ (taken : List (List Char)) (rise : Nat), names.foldl (step false) above =
    taken.map (fun name => encodeWith keepsInPath (dropBreaks name)) ++ above.drop rise ∧ ∀ name ∈ taken, name ∈ names := by
  induction names generalizing above with
  | nil => exact ⟨[], 0, rfl, nofun⟩
  | cons first rest ih =>
      rw [List.foldl_cons]
      obtain ⟨taken, rise, place, among⟩ := @ih (step false above first)
      have later : ∀ name ∈ taken, name ∈ first :: rest := fun name member => .tail _ (among name member)
      rcases @step_eq first above with same | up | ⟨_, down⟩
      · exact ⟨taken, rise, by rw [place, same], later⟩
      · exact ⟨taken, rise + 1, by rw [place, up, List.drop_tail], later⟩
      · cases rise with
        | zero =>
            refine ⟨taken ++ [first], 0, by rw [place, down]; simp, fun name member => ?_⟩
            rcases List.mem_append.mp member with member | member
            · exact later name member
            · rw [List.mem_singleton.mp member]
              exact .head _
        | succ rise => exact ⟨taken, rise, by rw [place, down, List.drop_succ_cons], later⟩

theorem Flat.foldl_step (flat : Flat above) (also : Flat names) : Flat (names.foldl (Url.step false) above) := by
  induction names generalizing above with
  | nil => exact flat
  | cons first rest ih =>
      obtain ⟨absent, later⟩ := flat_cons.mp also
      exact ih (flat.step absent) later

theorem follow_concat (plain : isDots (dropBreaks last) = false) : follow false above (front ++ [last]) =
    (front.foldl (step false) above).reverse ++ [encodeWith keepsInPath (dropBreaks last)] := by
  induction front generalizing above with
  | nil => simp [follow, step_of_plain plain, plain]
  | cons first rest ih =>
      have more : (rest ++ [last]).isEmpty = false := by simp
      rw [List.cons_append, follow, more, Bool.false_and, if_neg Bool.false_ne_true, ih, List.foldl_cons]

theorem Flat.follow (flat : Flat above) (also : Flat names) : Flat (follow false above names) := by
  induction names generalizing above with
  | nil => exact flat.reverse
  | cons first rest ih =>
      obtain ⟨absent, later⟩ := flat_cons.mp also
      unfold Url.follow
      refine ih ?_ later
      split
      · exact flat_cons.mpr ⟨nofun, flat.step absent⟩
      · exact flat.step absent

theorem follow_ne_nil (filled : names ≠ []) : follow false above names ≠ [] := by
  induction names generalizing above with
  | nil => exact absurd rfl filled
  | cons first rest ih =>
      unfold follow
      cases rest with
      | cons next others => exact ih (List.cons_ne_nil next others)
      | nil =>
          cases dots : isDots (dropBreaks first) with
          | true => simp [follow]
          | false => simp [follow, step_of_plain dots]

/-! ## Web addresses -/

theorem flat_splitPath {special : Bool} : Flat (splitPath special cs) := by
  unfold splitPath
  split
  · exact flat_pieces
  · split
    · simp [Flat]
    · exact nofun
  · exact flat_pieces

theorem splitPath_ne_nil : splitPath true cs ≠ [] := by
  unfold splitPath
  split
  · exact pieces_ne_nil _ _
  · simp
  · exact pieces_ne_nil _ _

theorem isSpecial_of_web {scheme : List Char} (web : isWeb scheme = true) : isSpecial scheme = true := by
  rw [isSpecial, web, Bool.true_or]

theorem path_of_read (given : read cs = .ok url) (web : isWeb url.scheme = true) :
    ∃ segments, url.path = .segments segments ∧ segments ≠ [] ∧ Flat segments := by
  unfold read at given
  split at given
  · next scheme rest cut =>
      obtain ⟨⟨authority, path⟩, body, given⟩ := Result.bind_eq_ok.mp given
      cases given
      unfold readBody at body
      rw [if_pos web] at body
      obtain ⟨⟨place, _⟩, _, body⟩ := Result.bind_eq_ok.mp body
      cases body
      refine ⟨_, rfl, ?_, ?_⟩
      · rw [isSpecial_of_web web]
        exact follow_ne_nil splitPath_ne_nil
      · exact Flat.follow nofun flat_splitPath
  · cases given

theorem text_concat : (UrlPath.segments (front ++ [last])).text = (UrlPath.segments front).text ++ '/' :: last := by
  simp [UrlPath.text]

theorem eq_nil_of_endsInSlash (flat : '/' ∉ last) (ends : (UrlPath.segments (front ++ [last])).endsInSlash = true) :
    last = [] := by
  rw [UrlPath.endsInSlash, text_concat, beq_iff_eq, List.getLast?_append_of_ne_nil _ (List.cons_ne_nil _ _)] at ends
  cases last with
  | nil => rfl
  | cons c rest =>
      rw [List.getLast?_cons_cons] at ends
      exact absurd (List.mem_of_getLast? ends) flat

theorem path_directory (path : url.path = .segments segments) (filled : segments ≠ []) (flat : Flat segments)
    (file : isFile url.scheme = false) : ∃ front, url.directory.path = .segments (front ++ [[]]) ∧ Flat front := by
  unfold directory
  split
  · next ends =>
      obtain ⟨front, last, rfl⟩ := segments.eq_nil_or_concat'.resolve_left filled
      rw [path] at ends
      have empty := eq_nil_of_endsInSlash (flat last (by simp)) ends
      rw [path, empty]
      exact ⟨front, rfl, fun segment member => flat segment (List.mem_append_left _ member)⟩
  · rw [path]
    exact ⟨segments, by simp [file], flat⟩

theorem scheme_directory : url.directory.scheme = url.scheme := by
  unfold directory
  split <;> rfl

end OverlayFabric.Url
