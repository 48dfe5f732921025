import OverlayFabric.Keyed

namespace OverlayFabric.Keyed

variable {α : Type} {key other : String} {value : α} {pairs map : List (String × α)}

theorem findKey?_insertKey :
    findKey? key (insertKey other value pairs) = if other = key then some value else findKey? key pairs := by
  induction pairs with
  | nil => rfl
  | cons pair rest ih =>
      obtain ⟨first, old⟩ := pair
      unfold insertKey
      split
      · rfl
      · split
        · next same =>
            subst same
            simp only [findKey?]
            split <;> rfl
        · next differ =>
            simp only [findKey?, ih]
            split
            · next here => simp [here ▸ differ]
            · rfl

theorem mem_of_findKey? (found : findKey? key pairs = some value) :
    (key, value) ∈ pairs := by
  induction pairs with
  | nil => cases found
  | cons pair rest ih =>
      unfold findKey? at found
      split at found
      · next same =>
          cases found
          rw [← same]
          exact .head _
      · exact .tail _ (ih found)

theorem insertKey_of_last (last : ∀ pair ∈ pairs, pair.1 < key) :
    insertKey key value pairs = pairs ++ [(key, value)] := by
  induction pairs with
  | nil => rfl
  | cons pair rest ih =>
      obtain ⟨first, later⟩ := List.forall_mem_cons.mp last
      rw [insertKey, if_neg (String.lt_asymm first), if_neg (Ne.symm (String.ne_of_lt first)), ih later, List.cons_append]

theorem pairs_ofList (ascending : pairs.Pairwise fun a b => a.1 < b.1) : (ofList pairs).pairs = pairs := by
  have onto (map : Keyed α) (sorted : (map.pairs ++ pairs).Pairwise fun a b => a.1 < b.1) :
      (pairs.foldl (fun map pair => map.insert pair.1 pair.2) map).pairs = map.pairs ++ pairs := by
    clear ascending
    induction pairs generalizing map with
    | nil => exact (List.append_nil _).symm
    | cons pair rest ih =>
        have inserted : (map.insert pair.1 pair.2).pairs = map.pairs ++ [pair] :=
          insertKey_of_last fun earlier member => (List.pairwise_append.mp sorted).2.2 earlier member pair (.head _)
        have whole : map.pairs ++ pair :: rest = (map.insert pair.1 pair.2).pairs ++ rest := by
          rw [inserted, List.append_assoc, List.singleton_append]
        rw [List.foldl_cons, ih _ (whole ▸ sorted), whole]
  exact onto empty ascending

theorem mem_ofList {pair : String × α} (member : pair ∈ (ofList pairs).pairs) :
    pair ∈ pairs := by
  have kept (map : Keyed α) (given : pair ∈ (pairs.foldl (fun map pair => map.insert pair.1 pair.2) map).pairs) :
      pair ∈ map.pairs ∨ pair ∈ pairs := by
    clear member
    induction pairs generalizing map with
    | nil => exact Or.inl given
    | cons first rest ih =>
        rcases ih _ given with known | later
        · rcases mem_insertKey known with rfl | known
          · exact Or.inr (.head _)
          · exact Or.inl known
        · exact Or.inr (.tail _ later)
  rcases kept empty member with absurd | known
  · cases absurd
  · exact known

theorem findKey?_foldl_of_absent (absent : key ∉ pairs.map Prod.fst) :
    findKey? key (pairs.foldl (fun map pair => insertKey pair.1 pair.2 map) map) = findKey? key map := by
  induction pairs generalizing map with
  | nil => rfl
  | cons pair rest ih =>
      rw [List.map_cons, List.mem_cons, not_or] at absent
      rw [List.foldl_cons, ih absent.2, findKey?_insertKey, if_neg (Ne.symm absent.1)]

theorem findKey?_foldl (distinct : (pairs.map Prod.fst).Nodup) : ∀ pair ∈ pairs,
    findKey? pair.1 (pairs.foldl (fun map pair => insertKey pair.1 pair.2 map) map) = some pair.2 := by
  induction pairs generalizing map with
  | nil => exact nofun
  | cons first rest ih =>
      obtain ⟨absent, distinct⟩ := List.nodup_cons.mp distinct
      refine List.forall_mem_cons.mpr ⟨?_, ih distinct⟩
      rw [List.foldl_cons, findKey?_foldl_of_absent absent, findKey?_insertKey, if_pos rfl]

theorem get?_ofList (keys : List String) (f : String → α) :
    (ofList (keys.map fun key => (key, f key))).get? key = if key ∈ keys then some (f key) else none := by
  have onto (map : Keyed α) : ((keys.map fun key => (key, f key)).foldl (fun map pair => map.insert pair.1 pair.2) map).get? key =
      if key ∈ keys then some (f key) else map.get? key := by
    induction keys generalizing map with
    | nil => rfl
    | cons first rest ih =>
        have inserted : (map.insert first (f first)).get? key = if first = key then some (f first) else map.get? key :=
          findKey?_insertKey
        rw [List.map_cons, List.foldl_cons, ih, inserted]
        by_cases here : first = key
        · subst here
          simp
        · simp [here, Ne.symm here]
  exact onto empty

theorem contains_iff {map : Keyed α} : map.contains key = true ↔ key ∈ map.keys := by
  unfold contains get? keys
  induction map.pairs with
  | nil => simp [findKey?]
  | cons pair rest ih =>
      by_cases here : pair.1 = key
      · simp [findKey?, here]
      · simp [findKey?, here, Ne.symm here, ih]

end OverlayFabric.Keyed
