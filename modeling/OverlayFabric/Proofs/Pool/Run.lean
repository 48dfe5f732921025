import OverlayFabric.Proofs.Pool.Step

/-!
Runs of operations on a pool. What one operation can do to a table is `Effect`; what it preserves
follows by its cases, and what a run preserves by induction on the run.
-/

namespace OverlayFabric.Pool

inductive Action where
  | sync
  | allocate (owner : String)
  | release (owner : String)
  | reserve (id : Nat) (owner : String)
  | releaseId (id : Nat)
  deriving DecidableEq, Repr

structure Operation where
  lock : Lock
  scope : Option String
  ranges : RangeSet
  action : Action

def perform (pool : Pool) (op : Operation) (rows : List PoolRow) :
    Except StoreError (Option Nat × List PoolRow) :=
  match op.action with
  | .sync => (pool.sync op.lock op.scope op.ranges rows).map fun (_, rows) => (none, rows)
  | .allocate owner =>
      (pool.allocate op.lock op.scope op.ranges owner rows).map fun (id, rows) => (some id, rows)
  | .release owner => (pool.release op.lock op.scope op.ranges owner rows).map fun (_, rows) => (none, rows)
  | .reserve id owner => (pool.reserve op.lock op.scope id owner rows).map fun rows => (some id, rows)
  | .releaseId id => (pool.releaseId op.lock op.scope op.ranges id rows).map fun (_, rows) => (none, rows)

def after (pool : Pool) (rows : List PoolRow) (op : Operation) : List PoolRow :=
  match pool.perform op rows with
  | .ok (_, rows) => rows
  | .error _ => rows

def run (pool : Pool) (ops : List Operation) (rows : List PoolRow) : List PoolRow :=
  ops.foldl pool.after rows

variable {pool : Pool} {op : Operation} {ops : List Operation} {rows : List PoolRow} {row : PoolRow}
  {id : Nat} {owner : String}

/-- The tables that an operation may leave. -/
inductive Effect (pool : Pool) (rows : List PoolRow) (op : Operation) : List PoolRow → Prop where
  | none : Effect pool rows op rows
  | synced {absent : List Nat} (asked : op.action = .sync) (once : absent.Nodup)
      (missing : ∀ id, id ∈ absent ↔ op.ranges.contains id = true ∧
        ∀ row ∈ rows, row.hasId (pool.scopeOf op.scope) id = false)
      (fit : ∀ row ∈ rows, row.inScope (pool.scopeOf op.scope) = true → ∃ id : Nat, row.id = id) :
      Effect pool rows op (pool.place
        (rows.filter fun row => !(row.isFreeIn (pool.scopeOf op.scope) && !covers op.ranges row))
        (absent.map fun id : Nat => ⟨pool.scopeOf op.scope, id, ""⟩))
  | handed {id : Nat} {owner : String} {row : PoolRow}
      (asked : op.action = .allocate owner ∨ op.action = .reserve id owner) (member : row ∈ rows)
      (has : row.hasId (pool.scopeOf op.scope) id = true) (free : row.owner = "") :
      Effect pool rows op (rows.map (handOver (pool.scopeOf op.scope) id owner))
  | added {id : Nat} {owner : String} (asked : op.action = .reserve id owner)
      (absent : ∀ row ∈ rows, row.hasId (pool.scopeOf op.scope) id = false) :
      Effect pool rows op (pool.place rows [⟨pool.scopeOf op.scope, id, owner⟩])
  | freed {ids : List Nat} (asked : ∀ id ∈ ids, op.action = .releaseId id ∨
      ∃ owner, op.action = .release owner ∧
        ∃ row ∈ rows, row.hasId (pool.scopeOf op.scope) id = true ∧ row.owner = owner) :
      Effect pool rows op (rows.filterMap (freed (pool.scopeOf op.scope) op.ranges ids))

theorem effect_after (distinct : pool.Distinct rows) (admits : pool.Admits op.scope) :
    Effect pool rows op (pool.after rows op) := by
  unfold after
  cases outcome : pool.perform op rows with
  | error e => exact .none
  | ok result =>
      obtain ⟨answer, left⟩ := result
      unfold perform at outcome
      cases action : op.action with
      | sync =>
          simp only [action] at outcome
          obtain ⟨⟨report, left⟩, done, same⟩ := Result.map_eq_ok.mp outcome
          cases same
          obtain ⟨absent, once, missing, fit, rfl⟩ := sync_eq_ok done
          exact .synced action once missing fit
      | allocate owner =>
          simp only [action] at outcome
          obtain ⟨⟨id, left⟩, done, same⟩ := Result.map_eq_ok.mp outcome
          cases same
          rcases allocateWithin_eq_ok distinct admits done with ⟨rfl, _⟩ | ⟨rfl, row, member, has, free⟩
          · exact .none
          · exact .handed (Or.inl action) member has free
      | release owner =>
          simp only [action] at outcome
          obtain ⟨⟨ids, left⟩, done, same⟩ := Result.map_eq_ok.mp outcome
          cases same
          obtain ⟨rfl, held⟩ := release_eq_ok done
          refine .freed fun id member => Or.inr ⟨owner, action, ?_⟩
          obtain ⟨row, known, owned, fits⟩ := (held id).mp member
          obtain ⟨here, same⟩ := PoolRow.isOwnedIn_iff.mp owned
          exact ⟨row, known, PoolRow.hasId_iff.mpr ⟨here, (word_eq_ok.mp fits).1⟩, same⟩
      | reserve id owner =>
          simp only [action] at outcome
          obtain ⟨left, done, same⟩ := Result.map_eq_ok.mp outcome
          cases same
          rcases reserve_eq_ok done with ⟨absent, rfl⟩ | ⟨rfl, _⟩ | ⟨rfl, row, member, has, free⟩
          · exact .added action absent
          · exact .none
          · exact .handed (Or.inr action) member has free
      | releaseId id =>
          simp only [action] at outcome
          obtain ⟨⟨known, left⟩, done, same⟩ := Result.map_eq_ok.mp outcome
          cases same
          rw [releaseId_eq_ok done]
          refine .freed fun other member => Or.inl ?_
          rw [List.mem_singleton.mp member, action]

theorem distinct_of_effect {left : List PoolRow} (distinct : pool.Distinct rows)
    (admits : pool.Admits op.scope) (effect : Effect pool rows op left) : pool.Distinct left := by
  cases effect with
  | none => exact distinct
  | synced asked once missing fit =>
      refine Distinct.place (distinct.sublist (List.filter_sublist.map _)) ?_ ?_
      · unfold Distinct
        rw [List.map_map]
        refine once.map ?_
        intro a b same
        simp only [Function.comp_apply, key_ofScope, Prod.mk.injEq, true_and] at same
        exact_mod_cast same
      · intro row member new fresh same
        obtain ⟨id, absent, rfl⟩ := List.mem_map.mp fresh
        have missed := ((missing id).mp absent).2 row (List.mem_of_mem_filter member)
        rw [key_ofScope, ← hasId_iff_key admits, missed] at same
        cases same
  | handed => exact distinct.map fun row => key_handOver
  | added asked absent =>
      refine distinct.place (by simp [Distinct]) ?_
      intro row member new fresh same
      rw [List.mem_singleton.mp fresh, key_ofScope, ← hasId_iff_key admits, absent row member] at same
      cases same
  | freed => exact distinct.filterMap fun row left => key_of_freed

theorem Distinct.run (distinct : pool.Distinct rows) (admits : ∀ op ∈ ops, pool.Admits op.scope) :
    pool.Distinct (pool.run ops rows) := by
  induction ops generalizing rows with
  | nil => exact distinct
  | cons op rest ih =>
      have here := admits op (.head _)
      exact ih (distinct_of_effect distinct here (effect_after distinct here))
        fun op member => admits op (.tail _ member)

end OverlayFabric.Pool
