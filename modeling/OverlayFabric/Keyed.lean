namespace OverlayFabric

def insertKey {α : Type} (key : String) (value : α) : List (String × α) → List (String × α)
  | [] => [(key, value)]
  | (k, v) :: rest =>
      if key < k then (key, value) :: (k, v) :: rest
      else if key = k then (key, value) :: rest
      else (k, v) :: insertKey key value rest

def findKey? {α : Type} (key : String) : List (String × α) → Option α
  | [] => none
  | (k, v) :: rest => if k = key then some v else findKey? key rest

theorem mem_insertKey {α : Type} {key : String} {value : α} {pair : String × α}
    {pairs : List (String × α)} (h : pair ∈ insertKey key value pairs) :
    pair = (key, value) ∨ pair ∈ pairs := by
  induction pairs with
  | nil => simpa [insertKey] using h
  | cons head rest ih =>
      obtain ⟨k, v⟩ := head
      simp only [insertKey] at h
      split at h
      · simp at h ⊢; exact h
      · split at h
        · simp at h ⊢; rcases h with h | h <;> simp [h]
        · rcases List.mem_cons.mp h with h | h
          · exact Or.inr (h ▸ .head _)
          · exact (ih h).imp_right (.tail _)

theorem sorted_insertKey {α : Type} (key : String) (value : α) {pairs : List (String × α)}
    (sorted : pairs.Pairwise fun a b => a.1 < b.1) :
    (insertKey key value pairs).Pairwise fun a b => a.1 < b.1 := by
  induction pairs with
  | nil => simp [insertKey]
  | cons head rest ih =>
      obtain ⟨k, v⟩ := head
      have inner := List.pairwise_cons.mp sorted
      simp only [insertKey]
      split
      · next before =>
          refine List.pairwise_cons.mpr ⟨fun pair member => ?_, sorted⟩
          rcases List.mem_cons.mp member with rfl | member
          · exact before
          · exact String.lt_trans before (inner.1 pair member)
      · split
        · next same =>
            subst same
            exact List.pairwise_cons.mpr ⟨fun pair member => inner.1 pair member, inner.2⟩
        · next after other =>
            refine List.pairwise_cons.mpr ⟨fun pair member => ?_, ih inner.2⟩
            rcases mem_insertKey member with rfl | member
            · rcases Std.lt_trichotomy k key with h | h | h
              · exact h
              · exact absurd h.symm other
              · exact absurd h after
            · exact inner.1 pair member

structure Keyed (α : Type) where
  pairs : List (String × α)
  sorted : pairs.Pairwise (fun a b => a.1 < b.1) := by simp
  deriving DecidableEq, Repr

namespace Keyed

variable {α β : Type}

def empty : Keyed α := { pairs := [] }

instance : Inhabited (Keyed α) := ⟨empty⟩

def insert (map : Keyed α) (key : String) (value : α) : Keyed α :=
  ⟨insertKey key value map.pairs, sorted_insertKey key value map.sorted⟩

/-- Of pairs with one key the last counts. -/
def ofList (pairs : List (String × α)) : Keyed α :=
  pairs.foldl (fun map pair => map.insert pair.1 pair.2) empty

def get? (map : Keyed α) (key : String) : Option α := findKey? key map.pairs

def contains (map : Keyed α) (key : String) : Bool := (map.get? key).isSome

def keys (map : Keyed α) : List String := map.pairs.map Prod.fst

def values (map : Keyed α) : List α := map.pairs.map Prod.snd

def erase (map : Keyed α) (key : String) : Keyed α :=
  ⟨map.pairs.filter (·.1 != key), map.sorted.filter _⟩

end Keyed
end OverlayFabric
