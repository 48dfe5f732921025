import OverlayFabric.Proofs.Synchronizer.Teardown

/-!
A task and the same task over again. `Task.Replays` says that once the task has succeeded, doing it over before
a cloud with the same answers succeeds likewise, calls no fabric and leaves every row alone.
-/

namespace OverlayFabric

/-- No call was made and no row was changed, though numbers of bindings may be used up. -/
structure Site.Still {ω : Type} (site after : Site ω) : Prop where
  record : after.record = site.record
  pools : ∀ pool, after.store.rows pool = site.store.rows pool
  bindings : after.store.bindings.rows = site.store.bindings.rows

namespace Site.Still

variable {ω : Type} {site mid after : Site ω}

theorem refl : site.Still site := ⟨rfl, fun _ => rfl, rfl⟩

theorem heard {state : ω} : site.Still (site.heard state) := ⟨rfl, fun _ => rfl, rfl⟩

theorem counted : site.Still (site.withBindings site.store.bindings.skip) :=
  ⟨rfl, fun _ => Store.rows_withBindings, rfl⟩

theorem trans (first : site.Still mid) (second : mid.Still after) : site.Still after where
  record := second.record.trans first.record
  pools pool := (second.pools pool).trans (first.pools pool)
  bindings := second.bindings.trans first.bindings

end Site.Still

namespace Task

variable {ω ω' α β : Type} {first : Outside ω} {second : Outside ω'} {same : ω → ω' → Prop} {site : Site ω}

theorem leads_read {f : Store → Except StoreError α} :
    Leads (Task.store first fun _ => .read f) site fun _ after => after = site := by
  rw [leads_locked, StoreM.run_read]
  rfl

def Replays (same : ω → ω' → Prop) (task : Task ω α) (again : Task ω' α) (site : Site ω) : Prop :=
  Leads task site fun result after => ∀ value, result = .ok value → after.store.Sound →
    ∀ other : Site ω', other.store = after.store → same site.outside other.outside →
      Leads again other fun result quiet => result = .ok value ∧ other.Still quiet

variable {task : Task ω α} {again : Task ω' α} {next : β → Task ω α} {next' : β → Task ω' α}

theorem replays_pure {value : α} : Replays same (pure value) (pure value) site :=
  fun _ done _ _ _ _ => ⟨done, .refl⟩

theorem Replays.map (replays : Replays same task again site) (f : α → β) :
    Replays same (f <$> task) (f <$> again) site := by
  rw [map_eq_pure_bind, map_eq_pure_bind]
  refine Leads.bind replays (fun value after quiet => ?_) fun e after _ => nofun
  rintro _ ⟨⟩ sound other store cloud
  refine (quiet value rfl sound other store cloud).bind ?_ ?_
  · rintro _ last ⟨⟨⟩, still⟩
    exact ⟨rfl, still⟩
  · rintro _ _ ⟨⟨⟩, _⟩

theorem replays_ask (alike : first.Alike second same) {query : Query β}
    (onward : ∀ answer, (first.ask query site.outside).1 = .ok answer →
      Replays same (next answer) (next' answer) (site.heard (first.ask query site.outside).2)) :
    Replays same (ask first query >>= next) (ask second query >>= next') site := by
  have asked := @run_ask _ _ first site query
  cases told : (first.ask query site.outside).1 with
  | error e =>
      rw [told] at asked
      rw [Replays, Leads, run_bind, asked]
      intro _ refused
      cases refused
  | ok answer =>
      rw [told] at asked
      refine (leads_bind_of_run asked).mpr ((onward answer told).mono ?_)
      intro result after quiet value done sound other store cloud
      -- What the cloud told the first time it tells the second time.
      obtain ⟨retold, later⟩ := alike.ask query cloud
      have reasked := @run_ask _ _ second other query
      rw [retold, told] at reasked
      have replayed := quiet value done sound (other.heard (second.ask query other.outside).2) store later
      exact (leads_bind_of_run reasked).mpr (replayed.mono fun _ _ both => ⟨both.1, Site.Still.heard.trans both.2⟩)

theorem replays_attempt_ask (alike : first.Alike second same) {query : Query β}
    {next : Except SyncError β → Task ω α} {next' : Except SyncError β → Task ω' α}
    (onward : ∀ result, Replays same (next result) (next' result) (site.heard (first.ask query site.outside).2)) :
    Replays same (attempt (ask first query) >>= next) (attempt (ask second query) >>= next') site := by
  have asked := @run_attempt _ _ site (ask first query)
  rw [run_ask] at asked
  refine (leads_bind_of_run asked).mpr ((onward _).mono ?_)
  intro result after quiet value done sound other store cloud
  obtain ⟨retold, later⟩ := alike.ask query cloud
  have reasked := @run_attempt _ _ other (ask second query)
  rw [run_ask, retold] at reasked
  have replayed := quiet value done sound (other.heard (second.ask query other.outside).2) store later
  exact (leads_bind_of_run reasked).mpr (replayed.mono fun _ _ ⟨ok, still⟩ => ⟨ok, Site.Still.heard.trans still⟩)

/-- The cloud is not asked, so that it goes on as if nothing had happened. -/
def Unnoticed (same : ω → ω' → Prop) (task : Task ω α) : Prop :=
  ∀ site state, same site.outside state → Leads task site fun _ after => same after.outside state

theorem unnoticed_pure {value : α} : Unnoticed same (pure value : Task ω α) := fun _ _ here => here

theorem Unnoticed.bind {task : Task ω β} (start : Unnoticed same task)
    (onward : ∀ value, Unnoticed same (next value)) : Unnoticed same (task >>= next) := fun site state here =>
  (start site state here).bind (fun value mid => onward value mid state) fun _ _ => id

theorem unnoticed_store {action : Lock → StoreM α} : Unnoticed same (store first action) := by
  intro site state here
  unfold Leads Task.run store
  rcases (action (first.lock site.outside)).run site.store with ⟨_ | _, _⟩ <;> exact here

theorem unnoticed_ignore_send (alike : first.Alike second same) {call : Call} :
    Unnoticed same (ignore (send first call)) := by
  intro site state here
  have told := alike.told call here
  unfold Leads Task.run ignore send
  rcases sent : first.send call site.outside with ⟨_ | _, later⟩ <;> rw [sent] at told <;> exact told

end Task
end OverlayFabric
