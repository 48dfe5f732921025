import Mathlib.Data.List.Basic

namespace OverlayFabric.Result

variable {ε α β γ : Type} {x : Except ε α} {value : β}

theorem bind_eq_ok {next : α → Except ε β} :
    (x >>= next) = .ok value ↔ ∃ found, x = .ok found ∧ next found = .ok value := by
  cases x with
  | ok found =>
      change next found = _ ↔ _
      simp
  | error e =>
      change Except.error e = _ ↔ _
      simp

theorem bind_eq_error {next : α → Except ε β} {e : ε} :
    (x >>= next) = .error e ↔ x = .error e ∨ ∃ found, x = .ok found ∧ next found = .error e := by
  cases x with
  | ok found =>
      change next found = _ ↔ _
      simp
  | error other =>
      change Except.error other = _ ↔ _
      simp

theorem map_eq_ok {f : α → β} : x.map f = .ok value ↔ ∃ found, x = .ok found ∧ f found = value := by
  cases x <;> simp [Except.map]

theorem mapM_eq_ok {f : α → Except ε β} {g : α → β} {xs : List α} (each : ∀ x ∈ xs, f x = .ok (g x)) :
    xs.mapM f = .ok (xs.map g) := by
  induction xs with
  | nil => rfl
  | cons x xs ih =>
      rw [List.mapM_cons, each x (.head _), ih fun y member => each y (.tail _ member)]
      rfl

theorem mapM_ok {f : α → Except ε β} {xs : List α} (each : ∀ x ∈ xs, ∃ y, f x = .ok y) : ∃ ys, xs.mapM f = .ok ys := by
  induction xs with
  | nil => exact ⟨[], rfl⟩
  | cons x xs ih =>
      obtain ⟨y, first⟩ := each x (.head _)
      obtain ⟨ys, rest⟩ := ih fun z member => each z (.tail _ member)
      refine ⟨y :: ys, ?_⟩
      rw [List.mapM_cons, first, rest]
      rfl

theorem mapM_eq_error {f : α → Except ε β} {xs : List α} {e : ε} : xs.mapM f = .error e ↔
    ∃ before x after, xs = before ++ x :: after ∧ (∀ y ∈ before, ∃ value, f y = .ok value) ∧ f x = .error e := by
  induction xs with
  | nil => exact iff_of_false nofun fun ⟨before, x, after, split, _⟩ => by simp at split
  | cons x xs ih =>
      rw [List.mapM_cons, bind_eq_error]
      constructor
      · rintro (failed | ⟨value, read, failed⟩)
        · exact ⟨[], x, xs, rfl, nofun, failed⟩
        · rcases bind_eq_error.mp failed with failed | ⟨values, _, absurd⟩
          · obtain ⟨before, y, after, rfl, fine, failed⟩ := ih.mp failed
            exact ⟨x :: before, y, after, rfl, List.forall_mem_cons.mpr ⟨⟨value, read⟩, fine⟩, failed⟩
          · cases absurd
      · rintro ⟨before, y, after, split, fine, failed⟩
        cases before with
        | nil =>
            cases split
            exact .inl failed
        | cons first before =>
            cases split
            obtain ⟨⟨value, read⟩, fine⟩ := List.forall_mem_cons.mp fine
            exact .inr ⟨value, read, bind_eq_error.mpr (.inl (ih.mpr ⟨before, y, after, rfl, fine, failed⟩))⟩

theorem mem_of_mapM {f : α → Except ε β} {xs : List α} {ys : List β} (all : xs.mapM f = .ok ys) :
    ∀ y, y ∈ ys ↔ ∃ x ∈ xs, f x = .ok y := by
  induction xs generalizing ys with
  | nil =>
      cases all
      simp
  | cons x xs ih =>
      rw [List.mapM_cons] at all
      obtain ⟨first, read, all⟩ := bind_eq_ok.mp all
      obtain ⟨others, rest, all⟩ := bind_eq_ok.mp all
      cases all
      intro y
      simp [ih rest y, read, eq_comm]

theorem ok_of_mapM {f : α → Except ε β} {xs : List α} {ys : List β} (all : xs.mapM f = .ok ys) :
    ∀ x ∈ xs, ∃ y, f x = .ok y := by
  induction xs generalizing ys with
  | nil => simp
  | cons x xs ih =>
      rw [List.mapM_cons] at all
      obtain ⟨first, read, all⟩ := bind_eq_ok.mp all
      obtain ⟨others, rest, _⟩ := bind_eq_ok.mp all
      intro y member
      rcases List.mem_cons.mp member with rfl | member
      · exact ⟨first, read⟩
      · exact ih rest y member

theorem map_of_mapM {f : α → Except ε β} {g : β → γ} {h : α → γ} {xs : List α} {ys : List β}
    (same : ∀ x y, f x = .ok y → g y = h x) (all : xs.mapM f = .ok ys) : ys.map g = xs.map h := by
  induction xs generalizing ys with
  | nil =>
      cases all
      rfl
  | cons x xs ih =>
      rw [List.mapM_cons] at all
      obtain ⟨first, read, all⟩ := bind_eq_ok.mp all
      obtain ⟨others, rest, all⟩ := bind_eq_ok.mp all
      cases all
      rw [List.map_cons, List.map_cons, same x first read, ih rest]

theorem mapM_head?_eq_ok {f : α → Except ε β} {xs : List α} (each : ∀ x ∈ xs, ∃ y, f x = .ok y) :
    ∃ first, xs.head?.mapM f = .ok first := by
  cases xs with
  | nil => exact ⟨none, rfl⟩
  | cons x xs =>
      obtain ⟨y, read⟩ := each x (.head _)
      refine ⟨some y, ?_⟩
      rw [List.head?_cons, Option.mapM_some, read]
      rfl

end OverlayFabric.Result
