import OverlayFabric.Proofs.Store.Allocator

namespace OverlayFabric.BorderPool

def rowsOn (switch : String) (rows : List PoolRow) : List PoolRow := rows.filter (·.inScope (some switch))

def rowsOff (switch : String) (rows : List PoolRow) : List PoolRow := rows.filter (!·.inScope (some switch))

variable {α β : Type} {switch owner : String} {rows fresh : List PoolRow} {keep other : PoolRow → Bool} {id : Nat}
  {lock : Lock} {ranges : RangeSet}

def Picks (switch : String) (keep : PoolRow → Bool) : Prop :=
  ∀ row, keep row = true → row.inScope (some switch) = true

section Picks

variable (picks : Picks switch keep)
include picks

theorem Picks.and : Picks switch fun row => keep row && other row :=
  fun row both => picks row (Bool.and_eq_true_iff.mp both).1

theorem Picks.filter : (rowsOn switch rows).filter keep = rows.filter keep := by
  rw [rowsOn, List.filter_filter]
  apply List.filter_congr
  intro row _
  cases picked : keep row with
  | false => rfl
  | true => exact picks row picked

theorem Picks.any : (rowsOn switch rows).any keep = rows.any keep := by
  have picked := congrArg (fun rows => rows.any fun _ => true) (@Picks.filter _ rows _ picks)
  simpa [List.any_filter] using picked

theorem Picks.countP : (rowsOn switch rows).countP keep = rows.countP keep := by
  rw [List.countP_eq_length_filter, picks.filter, ← List.countP_eq_length_filter]

theorem Picks.find? : (rowsOn switch rows).find? keep = rows.find? keep := by
  rw [← List.head?_filter, picks.filter, List.head?_filter]

end Picks

theorem picks_isOwnedIn : Picks switch (·.isOwnedIn (some switch) owner) :=
  fun _ owned => (PoolRow.isOwnedIn_iff.mp owned).1

theorem picks_isFreeIn : Picks switch (·.isFreeIn (some switch)) := fun _ free => (PoolRow.isFreeIn_iff.mp free).1

theorem picks_hasId : Picks switch (·.hasId (some switch) id) := fun _ has => (PoolRow.hasId_iff.mp has).1

structure Turns (switch : String) (change : List PoolRow → List PoolRow) : Prop where
  on : ∀ rows, rowsOn switch (change rows) = change (rowsOn switch rows)
  off : ∀ rows, rowsOff switch (change rows) = rowsOff switch rows

theorem turns_filterMap {f : PoolRow → Option PoolRow}
    (on : ∀ row left, row.inScope (some switch) = true → f row = some left → left.inScope (some switch) = true)
    (off : ∀ row, row.inScope (some switch) = false → f row = some row) : Turns switch (List.filterMap f) := by
  refine ⟨fun rows => ?_, fun rows => ?_⟩
  · rw [rowsOn, rowsOn, List.filter_filterMap, List.filterMap_filter]
    apply List.filterMap_congr
    intro row _
    cases here : row.inScope (some switch) with
    | false => simp [off row here, here]
    | true =>
        cases made : f row with
        | none => rfl
        | some left => simp [on row left here made]
  · rw [rowsOff, rowsOff, List.filter_filterMap, ← List.filterMap_eq_filter]
    apply List.filterMap_congr
    intro row _
    cases here : row.inScope (some switch) with
    | false => simp [off row here, Option.guard, here]
    | true =>
        cases made : f row with
        | none => simp [Option.guard, here]
        | some left => simp [on row left here made, Option.guard, here]

theorem turns_map {f : PoolRow → PoolRow} (on : ∀ row, (f row).inScope (some switch) = row.inScope (some switch))
    (off : ∀ row, row.inScope (some switch) = false → f row = row) : Turns switch (List.map f) := by
  rw [← List.filterMap_eq_map]
  refine turns_filterMap (fun row left here made => ?_) fun row away => congrArg some (off row away)
  cases made
  exact (on row).trans here

theorem turns_append (own : ∀ row ∈ fresh, row.inScope (some switch) = true) : Turns switch (· ++ fresh) := by
  refine ⟨fun rows => ?_, fun rows => ?_⟩
  · simp only [rowsOn, List.filter_append, List.filter_eq_self.mpr own]
  · have none : fresh.filter (!·.inScope (some switch)) = [] := by simpa [List.filter_eq_nil_iff] using own
    simp only [rowsOff, List.filter_append, none, List.append_nil]

theorem turns_filter (off : ∀ row, row.inScope (some switch) = false → keep row = true) :
    Turns switch (List.filter keep) := by
  refine ⟨fun rows => ?_, fun rows => ?_⟩
  · simp only [rowsOn, List.filter_filter, Bool.and_comm]
  · rw [rowsOff, List.filter_filter, rowsOff]
    apply List.filter_congr
    intro row _
    cases here : row.inScope (some switch) with
    | false => simp [off row here]
    | true => rfl

theorem turns_comp {first second : List PoolRow → List PoolRow} (before : Turns switch first)
    (after : Turns switch second) : Turns switch fun rows => second (first rows) :=
  ⟨fun rows => by rw [after.on, before.on], fun rows => by rw [after.off, before.off]⟩

theorem turns_giveBack : Turns switch (Pool.borderVlan.giveBack (some switch) ranges id) := by
  have same : Pool.borderVlan.giveBack (some switch) ranges id = List.filterMap (Pool.freed (some switch) ranges [id]) :=
    funext fun _ => Pool.giveBack_eq
  rw [same]
  refine turns_filterMap (fun row left here given => ?_) fun row away => ?_
  · unfold Pool.freed at given
    split at given
    · split at given <;> cases given
      rwa [PoolRow.inScope_setOwner]
    · cases given
      exact here
  · exact Pool.freed_of_other fun id _ => by simp [PoolRow.hasId, away]

theorem turns_foldl_giveBack {held : List Nat} :
    Turns switch fun rows => held.foldl (fun rows id => Pool.borderVlan.giveBack (some switch) ranges id rows) rows := by
  induction held with
  | nil => exact ⟨fun _ => rfl, fun _ => rfl⟩
  | cons id held ih => exact turns_comp turns_giveBack ih

theorem turns_handOver : Turns switch (List.map (Pool.handOver (some switch) id owner)) := by
  refine turns_map (fun row => ?_) fun row away => ?_
  · unfold Pool.handOver
    split <;> simp
  · simp [Pool.handOver, PoolRow.hasId, away]

theorem take_eq : Pool.borderVlan.take (some switch) id owner rows =
    if rows.any (·.isOwnedIn (some switch) owner) then (rows, 0)
    else (rows.map (Pool.handOver (some switch) id owner),
      rows.countP fun row => row.hasId (some switch) id && row.isFree) := rfl

theorem turns_take : Turns switch fun rows => (Pool.borderVlan.take (some switch) id owner rows).1 := by
  refine ⟨fun rows => ?_, fun rows => ?_⟩
  · simp only [take_eq, picks_isOwnedIn.any]
    split
    · rfl
    · exact turns_handOver.on rows
  · rw [take_eq]
    split
    · rfl
    · exact turns_handOver.off rows

theorem taken_rowsOn : (Pool.borderVlan.take (some switch) id owner (rowsOn switch rows)).2 =
    (Pool.borderVlan.take (some switch) id owner rows).2 := by
  rw [take_eq, take_eq, picks_isOwnedIn.any, picks_hasId.and.countP]
  split <;> rfl

/-- What an operation answers, and what it does to the rows of one leaf, hang on these rows alone, and it
leaves the others. -/
structure Confined (switch : String) (operation : List PoolRow → Except StoreError (α × List PoolRow)) : Prop where
  on : ∀ rows, (operation rows).map (fun (answer, left) => (answer, rowsOn switch left)) = operation (rowsOn switch rows)
  off : ∀ rows answer left, operation rows = .ok (answer, left) → rowsOff switch left = rowsOff switch rows

section Confined

theorem confined_done {answer : α} : Confined switch fun rows => .ok (answer, rows) :=
  ⟨fun _ => rfl, fun _ _ _ done => by cases done; rfl⟩

theorem confined_refused {e : StoreError} : Confined switch fun _ => (.error e : Except _ (α × List PoolRow)) :=
  ⟨fun _ => rfl, fun _ _ _ done => by cases done⟩

variable {next : β → List PoolRow → Except StoreError (α × List PoolRow)}

theorem confined_cases {operation : List PoolRow → Except StoreError (α × List PoolRow)} {read : List PoolRow → β}
    (same : ∀ rows, read (rowsOn switch rows) = read rows)
    (each : ∀ value, ∃ onward, Confined switch onward ∧ ∀ rows, read rows = value → operation rows = onward rows) :
    Confined switch operation := by
  refine ⟨fun rows => ?_, fun rows answer left done => ?_⟩
  · obtain ⟨onward, confined, agrees⟩ := each (read rows)
    rw [agrees rows rfl, agrees _ (same rows), confined.on]
  · obtain ⟨onward, confined, agrees⟩ := each (read rows)
    exact confined.off rows answer left ((agrees rows rfl).symm.trans done)

theorem confined_read {read : List PoolRow → β} (same : ∀ rows, read (rowsOn switch rows) = read rows)
    (onward : ∀ value, Confined switch (next value)) : Confined switch fun rows => next (read rows) rows := by
  refine confined_cases same fun value => ⟨next value, onward value, fun rows known => ?_⟩
  rw [known]

theorem confined_bind {read : List PoolRow → Except StoreError β} (same : ∀ rows, read (rowsOn switch rows) = read rows)
    (onward : ∀ value, Confined switch (next value)) :
    Confined switch fun rows => read rows >>= fun value => next value rows := by
  refine @confined_read _ _ switch (fun found rows => found >>= fun value => next value rows) read same fun found => ?_
  cases found with
  | error e => exact confined_refused
  | ok value => exact onward value

theorem confined_after {change : List PoolRow → List PoolRow} (turns : Turns switch change)
    {operation : List PoolRow → Except StoreError (α × List PoolRow)} (confined : Confined switch operation) :
    Confined switch fun rows => operation (change rows) := by
  refine ⟨fun rows => ?_, fun rows answer left done => ?_⟩
  · rw [confined.on, turns.on]
  · rw [confined.off _ _ _ done, turns.off]

theorem confined_answer {read : List PoolRow → α} {change : List PoolRow → List PoolRow}
    (same : ∀ rows, read (rowsOn switch rows) = read rows) (turns : Turns switch change) :
    Confined switch fun rows => .ok (read rows, change rows) :=
  @confined_read _ _ switch (fun value rows => .ok (value, change rows)) read same fun _ =>
    confined_after turns confined_done

theorem confined_claim {what : String} {operation : List PoolRow → Except StoreError (α × List PoolRow)}
    (onward : Confined switch operation) : Confined switch fun rows => lock.claim what >>= fun _ => operation rows :=
  confined_bind (fun _ => rfl) fun _ => onward

end Confined

theorem find_rowsOn : Pool.borderVlan.find (some switch) owner (rowsOn switch rows) =
    Pool.borderVlan.find (some switch) owner rows := by
  unfold Pool.find
  rw [show Pool.borderVlan.scopeOf (some switch) = some switch from rfl, picks_isOwnedIn.find?]

theorem lastFree_rowsOn : Pool.borderVlan.lastFree (some switch) ranges (rowsOn switch rows) =
    Pool.borderVlan.lastFree (some switch) ranges rows := by
  unfold Pool.lastFree
  rw [show Pool.borderVlan.scopeOf (some switch) = some switch from rfl, picks_isFreeIn.filter]

theorem confined_sync : Confined switch (Pool.borderVlan.sync lock (some switch) ranges) := by
  unfold Pool.sync
  simp only [Pool.scopeOf, Pool.isScoped, if_true, Option.isNone_some, Bool.and_false, Bool.false_and,
    Bool.false_eq_true, if_false]
  refine confined_claim ?_
  refine confined_bind (fun rows => ?_) fun present => ?_
  · rw [show (rowsOn switch rows).filter (·.inScope (some switch)) = rowsOn switch rows by simp [rowsOn]]
    rfl
  refine confined_answer (fun rows => ?_) (turns_comp (turns_filter fun row away => ?_) (turns_append ?_))
  · rw [picks_isFreeIn.and.countP]
    simp [rowsOn]
  · simp [PoolRow.isFreeIn, away]
  · simp [PoolRow.inScope]

theorem confined_allocateWithin {attempts : Nat} :
    Confined switch (Pool.borderVlan.allocateWithin lock (some switch) ranges owner attempts) := by
  induction attempts with
  | zero =>
      refine confined_bind (fun rows => find_rowsOn) fun found => ?_
      cases found with
      | some id => exact confined_done
      | none => exact confined_refused
  | succ attempts ih =>
      refine confined_bind (fun rows => find_rowsOn) fun found => ?_
      cases found with
      | some id => exact confined_done
      | none =>
          refine confined_bind (fun rows => lastFree_rowsOn) fun candidate => ?_
          cases candidate with
          | none => exact confined_refused
          | some id =>
              refine confined_claim ?_
              refine @confined_read _ _ switch (fun taken rows =>
                if taken = 1 then .ok (id, (Pool.borderVlan.take (some switch) id owner rows).1)
                else Pool.borderVlan.allocateWithin lock (some switch) ranges owner attempts
                  (Pool.borderVlan.take (some switch) id owner rows).1) _ (fun rows => taken_rowsOn) fun taken => ?_
              split
              · exact confined_after turns_take confined_done
              · exact confined_after turns_take ih

theorem confined_release : Confined switch (Pool.borderVlan.release lock (some switch) ranges owner) := by
  refine confined_claim (confined_bind (fun rows => ?_) fun held => ?_)
  · rw [show Pool.borderVlan.scopeOf (some switch) = some switch from rfl, picks_isOwnedIn.filter]
  · exact confined_after turns_foldl_giveBack confined_done

theorem confined_releaseId : Confined switch (Pool.borderVlan.releaseId lock (some switch) ranges id) := by
  refine confined_claim ?_
  refine @confined_read _ _ switch (fun known rows => if known = true then
    .ok (true, Pool.borderVlan.giveBack (some switch) ranges id rows) else .ok (false, rows))
    _ (fun rows => picks_hasId.any) fun known => ?_
  split
  · exact confined_answer (fun _ => rfl) turns_giveBack
  · exact confined_done

theorem confined_reserve : Confined switch fun rows =>
    (Pool.borderVlan.reserve lock (some switch) id owner rows).map fun left => ((), left) := by
  cases lock with
  | held => exact confined_refused
  | free =>
      unfold Pool.reserve
      refine @confined_cases _ _ switch _ (fun rows => rows.find? (·.hasId (some switch) id)) (fun _ => picks_hasId.find?)
        fun found => ?_
      cases found with
      | none =>
          have new : ∀ row ∈ [(⟨some switch, id, owner⟩ : PoolRow)], row.inScope (some switch) = true := by
            simp [PoolRow.inScope]
          refine ⟨fun rows => .ok ((), rows ++ [⟨some switch, id, owner⟩]), confined_answer (fun _ => rfl) (turns_append new),
            fun rows known => ?_⟩
          simp only [Pool.scopeOf, Pool.isScoped, if_true, known]
          rfl
      | some row =>
          by_cases free : row.isFree = true
          · refine ⟨fun rows => .ok ((), rows.map (Pool.handOver (some switch) id owner)),
              confined_answer (fun _ => rfl) turns_handOver, fun rows known => ?_⟩
            simp only [Pool.scopeOf, Pool.isScoped, if_true, known, free]
            rfl
          · by_cases own : row.owner = owner
            · refine ⟨fun rows => .ok ((), rows), confined_done, fun rows known => ?_⟩
              simp only [Pool.scopeOf, Pool.isScoped, if_true, known, free, own]
              rfl
            · refine ⟨fun _ => .error (.conflict Pool.borderVlan.name s!"id {id} is already owned by {row.owner}"),
                confined_refused, fun rows known => ?_⟩
              simp only [Pool.scopeOf, Pool.isScoped, if_true, known, free, own]
              rfl

inductive Request : Type → Type where
  | sync : Request SyncReport
  | allocate (owner : String) : Request Nat
  | release (owner : String) : Request (List Nat)
  | reserve (id : Nat) (owner : String) : Request Unit
  | releaseId (id : Nat) : Request Bool
  | find (owner : String) : Request (Option Nat)
  | stats : Request PoolStats

def Request.serve (lock : Lock) (switch : String) (ranges : RangeSet) :
    Request α → List PoolRow → Except StoreError (α × List PoolRow)
  | .sync => Pool.borderVlan.sync lock (some switch) ranges
  | .allocate owner => Pool.borderVlan.allocate lock (some switch) ranges owner
  | .release owner => Pool.borderVlan.release lock (some switch) ranges owner
  | .reserve id owner => fun rows =>
      (Pool.borderVlan.reserve lock (some switch) id owner rows).map fun left => ((), left)
  | .releaseId id => Pool.borderVlan.releaseId lock (some switch) ranges id
  | .find owner => fun rows => Pool.borderVlan.find (some switch) owner rows >>= fun found => .ok (found, rows)
  | .stats => fun rows => .ok (Pool.borderVlan.stats (some switch) rows, rows)

theorem confined_serve {request : Request α} : Confined switch (request.serve lock switch ranges) := by
  cases request with
  | sync => exact confined_sync
  | allocate owner => exact confined_allocateWithin
  | release owner => exact confined_release
  | reserve id owner => exact confined_reserve
  | releaseId id => exact confined_releaseId
  | find owner => exact confined_bind (fun _ => find_rowsOn) fun _ => confined_done
  | stats =>
      refine @confined_answer _ switch _ id (fun rows => ?_) ⟨fun _ => rfl, fun _ => rfl⟩
      simp [Pool.stats, Pool.scopeOf, Pool.isScoped, rowsOn]

def Request.action (request : Request α) (lock : Lock) (switch : String) (ranges : RangeSet) : StoreM α :=
  .onPool .borderVlan (request.serve lock switch ranges)

section Stores

variable {store other : Store} {request : Request α}

theorem off_rowsOff :
    rowsOff switch ((request.action lock switch ranges).run store).2.border = rowsOff switch store.border := by
  rw [Request.action, StoreM.run_onPool]
  cases served : request.serve lock switch ranges (store.rows .borderVlan) with
  | error e => rfl
  | ok result => exact confined_serve.off _ _ _ served

theorem run_action :
    ((request.action lock switch ranges).run store).1 =
        (request.serve lock switch ranges (rowsOn switch store.border)).map Prod.fst ∧
      rowsOn switch ((request.action lock switch ranges).run store).2.border =
        match request.serve lock switch ranges (rowsOn switch store.border) with
        | .ok (_, left) => left
        | .error _ => rowsOn switch store.border := by
  rw [← confined_serve.on, Request.action, StoreM.run_onPool, Store.rows]
  cases request.serve lock switch ranges store.border with
  | error e => exact ⟨rfl, rfl⟩
  | ok result => exact ⟨rfl, rfl⟩

/-- Two tables with the same rows of a leaf cannot be told apart by what is asked of its pool, and what
they have of other leaves stays. -/
theorem leaves_isolated (same : rowsOn switch store.border = rowsOn switch other.border) :
    let done := (request.action lock switch ranges).run store
    let again := (request.action lock switch ranges).run other
    done.1 = again.1 ∧ rowsOn switch done.2.border = rowsOn switch again.2.border ∧
      rowsOff switch done.2.border = rowsOff switch store.border ∧
      rowsOff switch again.2.border = rowsOff switch other.border := by
  intro done again
  obtain ⟨answer, left⟩ := @run_action _ switch lock ranges store request
  obtain ⟨answer', left'⟩ := @run_action _ switch lock ranges other request
  exact ⟨by rw [answer, answer', same], by rw [left, left', same], off_rowsOff, off_rowsOff⟩

theorem leaves_isolated_from_corrupt_rows :
    let rows : List PoolRow := [⟨some "10.0.0.1", 100, ""⟩, ⟨some "10.0.0.1", 101, "edge"⟩]
    let store : Store := { border := rows }
    let mixed : List PoolRow := ⟨some "10.0.0.2", -1, "core"⟩ :: rows ++ [⟨some "10.0.0.2", 100, "core"⟩]
    let other : Store := { border := mixed }
    let done := ((Request.allocate "core").action .free "10.0.0.1" { ranges := [⟨100, 109, by decide⟩] }).run store
    let again := ((Request.allocate "core").action .free "10.0.0.1" { ranges := [⟨100, 109, by decide⟩] }).run other
    rowsOn "10.0.0.1" store.border = rowsOn "10.0.0.1" other.border ∧ done.1 = .ok 100 ∧
      (done.1 = again.1 ∧ rowsOn "10.0.0.1" done.2.border = rowsOn "10.0.0.1" again.2.border ∧
        rowsOff "10.0.0.1" done.2.border = rowsOff "10.0.0.1" store.border ∧
        rowsOff "10.0.0.1" again.2.border = rowsOff "10.0.0.1" other.border) := by
  intro rows store mixed other done again
  have same : rowsOn "10.0.0.1" store.border = rowsOn "10.0.0.1" other.border := by decide
  exact ⟨same, rfl, leaves_isolated same⟩

end Stores

end OverlayFabric.BorderPool
