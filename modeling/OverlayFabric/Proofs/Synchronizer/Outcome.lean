import OverlayFabric.Proofs.Store.Allocator
import OverlayFabric.Synchronizer.Task

/-!
What a task comes to: `Leads task site post` says that its result and the site it leaves satisfy
`post`. There is one rule for every way in which tasks are put together, so that a property of a task
is shown along its text.
-/

namespace OverlayFabric

/-- No other process ever holds the write lock. -/
def Outside.Alone {ω : Type} (outside : Outside ω) : Prop := ∀ state, outside.lock state = .free

namespace Site

variable {ω : Type}

def heard (site : Site ω) (outside : ω) : Site ω := { site with outside }

def withStore (site : Site ω) (store : Store) : Site ω := { site with store }

def withBindings (site : Site ω) (bindings : Bindings) : Site ω :=
  { site with store := { site.store with bindings } }

variable {site : Site ω} {outside : ω} {bindings : Bindings} {call : Call} {accepted : Bool}

@[simp] theorem store_took : (site.took call accepted outside).store = site.store := rfl
@[simp] theorem calls_took : (site.took call accepted outside).calls = site.calls ++ [call] := by
  simp [calls, took]

@[simp] theorem store_withStore {store : Store} : (site.withStore store).store = store := rfl
@[simp] theorem calls_withStore {store : Store} : (site.withStore store).calls = site.calls := rfl

@[simp] theorem bindings_withBindings : (site.withBindings bindings).store.bindings = bindings := rfl

end Site

namespace Task

variable {ω α β : Type} {outside : Outside ω} {site : Site ω}

def Leads (task : Task ω α) (site : Site ω) (post : Except SyncError α → Site ω → Prop) : Prop :=
  post (task.run site).1 (task.run site).2

variable {task : Task ω α} {next : α → Task ω β} {post mid : Except SyncError α → Site ω → Prop}

theorem Leads.mono (leads : Leads task site mid) (weaken : ∀ result site, mid result site → post result site) :
    Leads task site post :=
  weaken _ _ leads

theorem Leads.and (first : Leads task site post) (second : Leads task site mid) :
    Leads task site fun result after => post result after ∧ mid result after := ⟨first, second⟩

theorem Leads.of_run {result : Except SyncError α} {after : Site ω} (leads : Leads task site post)
    (ran : task.run site = (result, after)) : post result after := by
  unfold Leads at leads
  rwa [ran] at leads

theorem Leads.known (leads : Leads task site post) :
    Leads task site fun result after => (task.run site).1 = result ∧ post result after := ⟨rfl, leads⟩

theorem run_of_result {result : Except SyncError α} (same : (task.run site).1 = result) :
    ∃ after, task.run site = (result, after) := ⟨_, Prod.ext same rfl⟩

theorem leads_pure {value : α} : Leads (pure value) site post ↔ post (.ok value) site := Iff.rfl

theorem leads_throw {error : SyncError} : Leads (throw error) site post ↔ post (.error error) site := Iff.rfl

theorem run_bind : (task >>= next).run site =
    match task.run site with
    | (.ok value, site) => (next value).run site
    | (.error error, site) => (.error error, site) := by
  change ExceptT.bindCont next (task site).1 (task site).2 = _
  unfold Task.run
  rcases task site with ⟨result, site⟩
  cases result <;> rfl

theorem leads_bind {post : Except SyncError β → Site ω → Prop} :
    Leads (task >>= next) site post ↔ Leads task site fun result mid =>
      match result with
      | .ok value => Leads (next value) mid post
      | .error error => post (.error error) mid := by
  unfold Leads
  rw [run_bind]
  rcases task.run site with ⟨value | error, mid⟩ <;> exact Iff.rfl

theorem Leads.bind {post : Except SyncError β → Site ω → Prop} (first : Leads task site mid)
    (succeeded : ∀ value site, mid (.ok value) site → Leads (next value) site post)
    (failed : ∀ error site, mid (.error error) site → post (.error error) site) :
    Leads (task >>= next) site post := by
  refine leads_bind.mpr (first.mono ?_)
  intro result site met
  cases result with
  | ok value => exact succeeded value site met
  | error error => exact failed error site met

theorem Leads.keep {holds : Site ω → Prop} (first : Leads task site fun _ mid => holds mid)
    (kept : ∀ value mid, holds mid → Leads (next value) mid fun _ after => holds after) :
    Leads (task >>= next) site fun _ after => holds after :=
  first.bind kept fun _ _ done => done

theorem leads_attempt {post : Except SyncError (Except SyncError α) → Site ω → Prop} :
    Leads (attempt task) site post ↔ Leads task site fun result site => post (.ok result) site := Iff.rfl

theorem leads_ignore {post : Except SyncError Unit → Site ω → Prop} :
    Leads (ignore task) site post ↔ Leads task site fun _ site => post (.ok ()) site := Iff.rfl

theorem Leads.ask {query : Query α}
    (answered : ∀ answer state, outside.ask query site.outside = (.ok answer, state) →
      post (.ok answer) (site.heard state))
    (failed : ∀ error state, outside.ask query site.outside = (.error error, state) →
      post (.error (.cloud error)) (site.heard state)) :
    Leads (Task.ask outside query) site post := by
  unfold Leads Task.run Task.ask
  rcases h : outside.ask query site.outside with ⟨answer | error, state⟩
  · exact failed _ _ h
  · exact answered _ _ h

theorem Leads.send {call : Call} {post : Except SyncError Unit → Site ω → Prop}
    (accepted : ∀ state, post (.ok ()) (site.took call true state))
    (refused : ∀ error state, post (.error (.ofFabric error)) (site.took call false state)) :
    Leads (Task.send outside call) site post := by
  unfold Leads Task.run Task.send
  rcases outside.send call site.outside with ⟨answer | error, state⟩
  · exact refused _ _
  · exact accepted _

theorem Leads.ignore_send {call : Call} {next : Unit → Task ω β} {post : Except SyncError β → Site ω → Prop}
    (sent : ∀ accepted state, Leads (next ()) (site.took call accepted state) post) :
    Leads (Task.ignore (Task.send outside call) >>= next) site post :=
  leads_bind.mpr (leads_ignore.mpr (Leads.send (sent true) fun _ => sent false))

theorem leads_bind_of_run {post : Except SyncError β → Site ω → Prop} {value : α} {after : Site ω}
    (known : task.run site = (.ok value, after)) :
    Leads (task >>= next) site post ↔ Leads (next value) after post := by
  unfold Leads
  rw [run_bind, known]

theorem run_bind_of_run {value : α} {after : Site ω} (known : task.run site = (.ok value, after)) :
    (task >>= next).run site = (next value).run after := by
  rw [run_bind, known]

theorem run_ask {query : Query α} : (ask outside query).run site =
    ((outside.ask query site.outside).1.mapError .cloud, site.heard (outside.ask query site.outside).2) := by
  unfold Task.run ask
  rcases outside.ask query site.outside with ⟨e | answer, state⟩ <;> rfl

theorem ask_congr {query : Query α} {later : Site ω}
    (same : (outside.ask query later.outside).1 = (outside.ask query site.outside).1)
    (onward : ∀ answer, (outside.ask query site.outside).1 = .ok answer →
      ((next answer).run (later.heard (outside.ask query later.outside).2)).1 =
        ((next answer).run (site.heard (outside.ask query site.outside).2)).1) :
    ((ask outside query >>= next).run later).1 = ((ask outside query >>= next).run site).1 := by
  have first (site : Site ω) : ((ask outside query >>= next).run site).1 =
      match (outside.ask query site.outside).1 with
      | .ok answer => ((next answer).run (site.heard (outside.ask query site.outside).2)).1
      | .error e => .error (.cloud e) := by
    rw [Task.run_bind, Task.run_ask]
    cases (outside.ask query site.outside).1 <;> rfl
  rw [first, first, same]
  cases answered : (outside.ask query site.outside).1 with
  | error e => rfl
  | ok answer => exact onward answer answered

theorem run_attempt : (attempt task).run site = (.ok (task.run site).1, (task.run site).2) := rfl

theorem run_store (alone : outside.Alone) {action : Lock → StoreM α} {value : α} {store : Store}
    (ran : (action .free).run site.store = (.ok value, store)) :
    (Task.store outside action).run site = (.ok value, site.withStore store) := by
  simp only [Task.run, Task.store, alone site.outside, ran]
  rfl

theorem run_read {f : Store → Except StoreError α} {value : α} (read : f site.store = .ok value) :
    (Task.store outside fun _ => .read f).run site = (.ok value, site) := by
  simp only [Task.run, Task.store, StoreM.run, StoreM.read, read]

theorem run_onBindings (alone : outside.Alone) {f : Lock → Bindings → Except StoreError (α × Bindings)}
    {value : α} {bindings : Bindings} (done : f .free site.store.bindings = .ok (value, bindings)) :
    (Task.store outside fun lock => .onBindings (f lock)).run site = (.ok value, site.withBindings bindings) := by
  simp only [Task.run, Task.store, StoreM.run, StoreM.onBindings, alone site.outside, done]
  rfl

theorem leads_locked {action : Lock → StoreM α} :
    Leads (Task.store outside action) site post ↔
      post (((action (outside.lock site.outside)).run site.store).1.mapError .ofStore)
        (site.withStore ((action (outside.lock site.outside)).run site.store).2) := by
  unfold Leads Task.run Task.store
  rcases (action (outside.lock site.outside)).run site.store with ⟨result | error, store⟩ <;> exact Iff.rfl

theorem leads_store (alone : outside.Alone) {action : Lock → StoreM α} :
    Leads (Task.store outside action) site post ↔
      post (((action .free).run site.store).1.mapError .ofStore)
        (site.withStore ((action .free).run site.store).2) := by
  rw [leads_locked, alone]

def Fails (task : Task ω α) (site : Site ω) : Prop := Leads task site fun result _ => ∃ e, result = .error e

theorem Fails.run (fails : Fails task site) : ∃ e after, task.run site = (.error e, after) := by
  obtain ⟨e, failed⟩ := fails
  exact ⟨e, run_of_result failed⟩

theorem fails_of_first (fails : Fails task site) : Fails (task >>= next) site := by
  apply Leads.bind fails
  · intro _ _ ⟨_, absurd⟩
    cases absurd
  · exact fun e _ _ => ⟨e, rfl⟩

theorem fails_of_next (fails : ∀ value mid, Fails (next value) mid) : Fails (task >>= next) site := by
  apply leads_bind.mpr
  cases ran : (task.run site).1 with
  | ok value =>
      rw [Leads, ran]
      exact fails value _
  | error e =>
      rw [Leads, ran]
      exact ⟨e, rfl⟩

theorem Leads.forAll {items : List β} {task : β → Task ω Unit} {keeps : List β → Site ω → Prop}
    (each : ∀ item rest site, keeps (item :: rest) site → Leads (task item) site fun _ after => keeps rest after)
    (start : keeps items site) : Leads (Task.forAll task items) site fun _ after => keeps [] after := by
  induction items generalizing site with
  | nil => exact start
  | cons item rest ih =>
      refine leads_bind.mpr (leads_attempt.mpr ((each item rest site start).mono fun result mid kept => ?_))
      cases result with
      | ok _ => exact ih kept
      | error error => exact leads_bind.mpr (leads_ignore.mpr (ih kept))

theorem Leads.forAll_ok {items : List β} {task : β → Task ω Unit} {keeps : List β → Site ω → Prop}
    (each : ∀ item rest site, keeps (item :: rest) site →
      Leads (task item) site fun result after => result = .ok () ∧ keeps rest after)
    (start : keeps items site) :
    Leads (Task.forAll task items) site fun result after => result = .ok () ∧ keeps [] after := by
  induction items generalizing site with
  | nil => exact ⟨rfl, start⟩
  | cons item rest ih =>
      refine leads_bind.mpr (leads_attempt.mpr ((each item rest site start).mono ?_))
      rintro _ mid ⟨rfl, kept⟩
      exact ih kept

end Task
end OverlayFabric
