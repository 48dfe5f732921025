import OverlayFabric.Proofs.Synchronizer.Outcome

/-!
Two runs side by side, before one cloud and two fabrics. `Task.Agrees` says that two tasks, begun with the same
store and the same calls, come to the same result, the same store and the same calls. Asking the cloud keeps
the runs together; calling the fabric does so only where the answer is ignored.
-/

namespace OverlayFabric

/-- Of two states that are the same to the cloud, both have the same answers and the same writers, and no
call to either fabric makes a difference. -/
structure Outside.Alike {ω ω' : Type} (first : Outside ω) (second : Outside ω') (same : ω → ω' → Prop) : Prop where
  ask : ∀ {α : Type} (query : Query α) {state : ω} {other : ω'}, same state other →
    (second.ask query other).1 = (first.ask query state).1 ∧
      same (first.ask query state).2 (second.ask query other).2
  told : ∀ (call : Call) {state : ω} {other : ω'}, same state other → same (first.send call state).2 other
  heard : ∀ (call : Call) {state : ω} {other : ω'}, same state other → same state (second.send call other).2
  lock : ∀ {state : ω} {other : ω'}, same state other → second.lock other = first.lock state

theorem Outside.alike_pair {κ φ φ' : Type} {ask : {α : Type} → Query α → κ → Except CloudError α × κ}
    {send : Call → φ → Except FabricError Unit × φ} {send' : Call → φ' → Except FabricError Unit × φ'} :
    (Outside.pair ask send).Alike (Outside.pair ask send') fun state other => other.1 = state.1 where
  ask query state other same := by simp [pair, same]
  told _ _ _ same := same
  heard _ _ _ same := same
  lock _ := rfl

structure Site.Agree {ω ω' : Type} (same : ω → ω' → Prop) (site : Site ω) (other : Site ω') : Prop where
  store : other.store = site.store
  calls : other.calls = site.calls
  outside : same site.outside other.outside

namespace Task

variable {ω ω' α β : Type} {first : Outside ω} {second : Outside ω'} {same : ω → ω' → Prop}

def Agrees (same : ω → ω' → Prop) (task : Task ω α) (again : Task ω' α) : Prop :=
  ∀ site other, Site.Agree same site other →
    (again.run other).1 = (task.run site).1 ∧ Site.Agree same (task.run site).2 (again.run other).2

variable {task : Task ω α} {again : Task ω' α} {next : α → Task ω β} {next' : α → Task ω' β}

theorem agrees_pure {value : α} : Agrees same (pure value) (pure value) := fun _ _ start => ⟨rfl, start⟩

theorem agrees_throw {e : SyncError} : Agrees same (throw e : Task ω α) (throw e) := fun _ _ start => ⟨rfl, start⟩

theorem Agrees.bind (start : Agrees same task again) (onward : ∀ value, Agrees same (next value) (next' value)) :
    Agrees same (task >>= next) (again >>= next') := by
  intro site other agree
  obtain ⟨result, mid⟩ := start site other agree
  rw [run_bind, run_bind]
  rcases ran : task.run site with ⟨e | value, after⟩
  · rcases ran' : again.run other with ⟨e' | value', after'⟩ <;> rw [ran, ran'] at result mid <;> cases result
    exact ⟨rfl, mid⟩
  · rcases ran' : again.run other with ⟨e' | value', after'⟩ <;> rw [ran, ran'] at result mid <;> cases result
    exact onward _ _ _ mid

theorem Agrees.map (start : Agrees same task again) (f : α → β) : Agrees same (f <$> task) (f <$> again) := by
  rw [map_eq_pure_bind, map_eq_pure_bind]
  exact start.bind fun _ => agrees_pure

theorem Agrees.attempt (start : Agrees same task again) : Agrees same (attempt task) (attempt again) := by
  intro site other agree
  obtain ⟨result, after⟩ := start site other agree
  exact ⟨congrArg Except.ok result, after⟩

theorem Agrees.forAll {items : List β} {task : β → Task ω Unit} {again : β → Task ω' Unit}
    (each : ∀ item, Agrees same (task item) (again item)) : Agrees same (forAll task items) (forAll again items) := by
  induction items with
  | nil => exact agrees_pure
  | cons item rest ih =>
      refine (each item).attempt.bind fun result => ?_
      cases result with
      | ok _ => exact ih
      | error e => exact Agrees.bind (fun site other agree => ⟨rfl, (ih site other agree).2⟩) fun _ => agrees_throw

section Alike

variable (alike : first.Alike second same)

include alike

theorem agrees_ask (query : Query α) : Agrees same (ask first query) (ask second query) := by
  intro site other agree
  obtain ⟨answer, after⟩ := alike.ask query agree.outside
  rw [run_ask, run_ask, answer]
  exact ⟨rfl, agree.store, agree.calls, after⟩

theorem agrees_store (action : Lock → StoreM α) : Agrees same (store first action) (store second action) := by
  intro site other agree
  unfold Task.run store
  rw [alike.lock agree.outside, agree.store]
  rcases (action (first.lock site.outside)).run site.store with ⟨e | value, after⟩
  · exact ⟨rfl, rfl, agree.calls, agree.outside⟩
  · exact ⟨rfl, rfl, agree.calls, agree.outside⟩

theorem agrees_ignore_send (call : Call) : Agrees same (ignore (send first call)) (ignore (send second call)) := by
  intro site other agree
  have after := alike.heard call (alike.told call agree.outside)
  unfold Task.run ignore send
  rcases sent : first.send call site.outside with ⟨e | _, state⟩ <;>
    rcases sent' : second.send call other.outside with ⟨e' | _, state'⟩ <;> rw [sent, sent'] at after <;>
    exact ⟨rfl, agree.store, by simp [agree.calls], after⟩

end Alike

end Task
end OverlayFabric
