import OverlayFabric.Proofs.Pool.Run

namespace OverlayFabric.Pool

def highest : Pool → Nat
  | .borderVlan => 4094
  | .l2Segment | .l3Segment => 16777215

def Names (pool : Pool) (id : Nat) : Prop := 1 ≤ id ∧ id ≤ pool.highest

structure Sound (pool : Pool) (rows : List PoolRow) : Prop where
  distinct : pool.Distinct rows
  named : ∀ row ∈ rows, ∃ id : Nat, row.id = id ∧ pool.Names id
  placed : ∀ row ∈ rows, pool.Admits row.scope

/-- The operation works in a scope of the pool and with identifiers of the pool. -/
structure Proper (pool : Pool) (op : Operation) : Prop where
  admits : pool.Admits op.scope
  ranges : ∀ id, op.ranges.contains id = true → pool.Names id
  reserved : ∀ id owner, op.action = .reserve id owner → pool.Names id

def Single (pool : Pool) (rows : List PoolRow) : Prop :=
  ∀ a ∈ rows, ∀ b ∈ rows, (pool.key a).1 = (pool.key b).1 → a.owner = b.owner → a.owner ≠ "" → a = b

variable {pool : Pool} {op : Operation} {rows left : List PoolRow} {row : PoolRow} {id : Nat}
  {lock : Lock} {scope : Option String} {ranges : RangeSet} {owner : String}

theorem sound_nil : pool.Sound [] := ⟨List.nodup_nil, by simp, by simp⟩

theorem admits_scopeOf (admits : pool.Admits scope) : pool.Admits (pool.scopeOf scope) := by
  intro given
  rw [scopeOf, if_pos given]
  exact admits given

theorem Names.fits (named : pool.Names id) : pool.word (id : Int) = .ok id := by
  refine word_eq_ok.mpr ⟨rfl, ?_⟩
  have top : pool.highest ≤ 16777215 := by cases pool <;> decide
  have limit : (16777215 : Int) ≤ Number.wordLimit := by decide
  have := named.2
  omega

theorem mem_of_effect (proper : pool.Proper op) (effect : Effect pool rows op left) (member : row ∈ left) :
    (∃ before ∈ rows, row.scope = before.scope ∧ row.id = before.id) ∨
      row.scope = pool.scopeOf op.scope ∧ ∃ id : Nat, row.id = id ∧ pool.Names id := by
  cases effect with
  | none => exact Or.inl ⟨row, member, rfl, rfl⟩
  | synced asked once missing fit =>
      rcases mem_place.mp member with kept | new
      · exact Or.inl ⟨row, List.mem_of_mem_filter kept, rfl, rfl⟩
      · obtain ⟨id, absent, rfl⟩ := List.mem_map.mp new
        exact Or.inr ⟨rfl, id, rfl, proper.ranges id ((missing id).mp absent).1⟩
  | handed =>
      obtain ⟨before, known, rfl⟩ := List.mem_map.mp member
      refine Or.inl ⟨before, known, ?_⟩
      unfold handOver
      split <;> exact ⟨rfl, rfl⟩
  | @added id owner asked absent =>
      rcases mem_place.mp member with known | new
      · exact Or.inl ⟨row, known, rfl, rfl⟩
      · rw [List.mem_singleton.mp new]
        exact Or.inr ⟨rfl, id, rfl, proper.reserved id owner asked⟩
  | freed asked =>
      obtain ⟨before, known, given⟩ := List.mem_filterMap.mp member
      refine Or.inl ⟨before, known, ?_⟩
      unfold freed at given
      split at given
      · split at given <;> cases given
        exact ⟨rfl, rfl⟩
      · cases given
        exact ⟨rfl, rfl⟩

theorem Sound.after (sound : pool.Sound rows) (proper : pool.Proper op) : pool.Sound (pool.after rows op) := by
  have effect := effect_after sound.distinct proper.admits
  refine ⟨distinct_of_effect sound.distinct proper.admits effect, fun row member => ?_, fun row member => ?_⟩
  · rcases mem_of_effect proper effect member with ⟨before, known, _, same⟩ | ⟨_, named⟩
    · rw [same]
      exact sound.named before known
    · exact named
  · rcases mem_of_effect proper effect member with ⟨before, known, same, _⟩ | ⟨here, _⟩
    · rw [same]
      exact sound.placed before known
    · rw [here]
      exact admits_scopeOf proper.admits

theorem owned_of_find (unheld : pool.find scope owner rows = .ok none) :
    ∀ row ∈ rows, row.isOwnedIn (pool.scopeOf scope) owner = false := by
  unfold find at unheld
  split at unheld
  · next row _ => cases word : pool.word row.id <;> rw [word] at unheld <;> cases unheld
  · next missing => simpa using missing

theorem allocateWithin_of_held {attempts : Nat}
    (held : ∃ row ∈ rows, row.isOwnedIn (pool.scopeOf scope) owner = true)
    (done : pool.allocateWithin lock scope ranges owner attempts rows = .ok (id, left)) : left = rows := by
  obtain ⟨row, member, owned⟩ := held
  have search (found : Option Nat) (here : pool.find scope owner rows = .ok found) : found ≠ none := by
    rintro rfl
    rw [owned_of_find here row member] at owned
    cases owned
  cases attempts with
  | zero =>
      obtain ⟨found, here, done⟩ := Result.bind_eq_ok.mp done
      cases found with
      | none => exact absurd rfl (search _ here)
      | some held =>
          cases done
          rfl
  | succ attempts =>
      obtain ⟨found, here, done⟩ := Result.bind_eq_ok.mp done
      cases found with
      | none => exact absurd rfl (search _ here)
      | some held =>
          cases done
          rfl

theorem after_allocate_of_held (held : ∃ row ∈ rows, row.isOwnedIn (pool.scopeOf scope) owner = true) :
    pool.after rows ⟨lock, scope, ranges, .allocate owner⟩ = rows := by
  unfold after perform allocate
  simp only
  cases done : pool.allocateWithin lock scope ranges owner allocateAttempts rows with
  | error e => rfl
  | ok answer => exact allocateWithin_of_held held done

theorem after_allocate_again :
    pool.after (pool.after rows ⟨lock, scope, ranges, .allocate owner⟩) ⟨lock, scope, ranges, .allocate owner⟩ =
      pool.after rows ⟨lock, scope, ranges, .allocate owner⟩ := by
  cases done : pool.allocate lock scope ranges owner rows with
  | error e =>
      have refused : pool.after rows ⟨lock, scope, ranges, .allocate owner⟩ = rows := by
        simp only [after, perform, done]
        rfl
      rw [refused, refused]
  | ok answer =>
      have given : pool.after rows ⟨lock, scope, ranges, .allocate owner⟩ = answer.2 := by
        simp only [after, perform, done]
        rfl
      rw [given]
      obtain ⟨row, member, has, owned⟩ := owned_of_allocateWithin done
      exact after_allocate_of_held ⟨row, member, PoolRow.isOwnedIn_iff.mpr ⟨(PoolRow.hasId_iff.mp has).1, owned⟩⟩

theorem Single.eq_of_isOwnedIn {other : PoolRow} (single : pool.Single rows) (admits : pool.Admits scope)
    (named : owner ≠ "") (member : row ∈ rows) (second : other ∈ rows)
    (owned : row.isOwnedIn (pool.scopeOf scope) owner = true) (also : other.isOwnedIn (pool.scopeOf scope) owner = true) :
    row = other := by
  obtain ⟨here, own⟩ := PoolRow.isOwnedIn_iff.mp owned
  obtain ⟨there, same⟩ := PoolRow.isOwnedIn_iff.mp also
  exact single row member other second (((inScope_iff admits).mp here).trans ((inScope_iff admits).mp there).symm)
    (own.trans same.symm) (own ▸ named)

theorem Single.handOver (single : pool.Single rows) (distinct : pool.Distinct rows)
    (unheld : ∀ row ∈ rows, row.isOwnedIn (pool.scopeOf scope) owner = false) :
    pool.Single (rows.map (handOver (pool.scopeOf scope) id owner)) := by
  intro a aMember b bMember here same named
  obtain ⟨first, aKnown, rfl⟩ := List.mem_map.mp aMember
  obtain ⟨second, bKnown, rfl⟩ := List.mem_map.mp bMember
  rw [key_handOver, key_handOver] at here
  have wanted {row : PoolRow} (handed : (row.hasId (pool.scopeOf scope) id && row.isFree) = true) :
      row.inScope (pool.scopeOf scope) = true ∧ row.id = id :=
    PoolRow.hasId_iff.mp (Bool.and_eq_true_iff.mp handed).1
  -- In the scope of the row handed over nobody else has the owner.
  have apart {row : PoolRow} (known : row ∈ rows) (inside : row.inScope (pool.scopeOf scope) = true) : row.owner ≠ owner := by
    intro owned
    have free := unheld row known
    rw [PoolRow.isOwnedIn_iff.mpr ⟨inside, owned⟩] at free
    cases free
  unfold Pool.handOver at same named ⊢
  split at same
  · next handed =>
      split at same
      · next also =>
          rw [distinct.eq_of_key aKnown bKnown (Prod.ext here ((wanted handed).2.trans (wanted also).2.symm))]
      · exact absurd same.symm (apart bKnown (inScope_congr here ▸ (wanted handed).1))
  · next kept =>
      split at same
      · next also => exact absurd same (apart aKnown ((inScope_congr here).trans (wanted also).1))
      · next also =>
          rw [if_neg kept] at named ⊢
          rw [if_neg also]
          exact single first aKnown second bKnown here same named

theorem Single.of_owned (single : pool.Single rows) (kept : ∀ row ∈ left, row.owner ≠ "" → row ∈ rows) :
    pool.Single left := by
  intro a aMember b bMember here same named
  exact single a (kept a aMember named) b (kept b bMember (same ▸ named)) here same named

theorem single_of_effect (single : pool.Single rows) (distinct : pool.Distinct rows)
    (effect : Effect pool rows op left) (granted : ∀ id owner, op.action ≠ .reserve id owner)
    (unheld : ∀ owner, op.action = .allocate owner → ∀ row ∈ rows, row.isOwnedIn (pool.scopeOf op.scope) owner = false) :
    pool.Single left := by
  cases effect with
  | none => exact single
  | synced =>
      refine single.of_owned fun row member named => ?_
      rcases mem_place.mp member with known | new
      · exact List.mem_of_mem_filter known
      · obtain ⟨id, _, rfl⟩ := List.mem_map.mp new
        exact absurd rfl named
  | handed asked =>
      rcases asked with asked | asked
      · exact single.handOver distinct (unheld _ asked)
      · exact absurd asked (granted _ _)
  | added asked => exact absurd asked (granted _ _)
  | freed =>
      -- What is left with an owner was not touched.
      refine single.of_owned fun row member named => ?_
      obtain ⟨before, known, given⟩ := List.mem_filterMap.mp member
      unfold Pool.freed at given
      split at given
      · split at given <;> cases given
        exact absurd rfl named
      · cases given
        exact known

/-- Only a reservation gives an owner a second row of one scope. -/
theorem Single.after (single : pool.Single rows) (distinct : pool.Distinct rows) (admits : pool.Admits op.scope)
    (granted : ∀ id owner, op.action ≠ .reserve id owner) : pool.Single (pool.after rows op) := by
  by_cases held : ∃ owner, op.action = .allocate owner ∧ ∃ row ∈ rows, row.isOwnedIn (pool.scopeOf op.scope) owner = true
  · obtain ⟨owner, asked, held⟩ := held
    obtain ⟨lock, scope, ranges, action⟩ := op
    cases asked
    rw [after_allocate_of_held held]
    exact single
  · refine single_of_effect single distinct (effect_after distinct admits) granted fun owner asked row member => ?_
    rw [← Bool.not_eq_true]
    exact fun owned => held ⟨owner, asked, row, member, owned⟩

end OverlayFabric.Pool
