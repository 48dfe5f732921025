import OverlayFabric.Proofs.Pool.Unreserved

/-!
Lending: free rows in the hands of an owner for a while. Taking one more and giving back those of a
scope leads from one lent table to another, so that what was lent bit by bit can be returned in any
order, and the table is then what it was, row for row.
-/

namespace OverlayFabric.Pool

def lend (pool : Pool) (keys : List (Option String × Int)) (owner : String) (rows : List PoolRow) : List PoolRow :=
  rows.map fun row => if pool.key row ∈ keys then row.setOwner owner else row

/-- The rows of the keys are free and inside the ranges of their scopes. -/
def Lendable (pool : Pool) (rangesOf : Option String → RangeSet) (keys : List (Option String × Int))
    (rows : List PoolRow) : Prop :=
  ∀ row ∈ rows, pool.key row ∈ keys → row.owner = "" ∧ covers (rangesOf (pool.key row).1) row = true

variable {pool : Pool} {keys : List (Option String × Int)} {owner : String} {rows after : List PoolRow}
  {row : PoolRow} {scope : Option String} {ranges : RangeSet} {id : Nat} {rangesOf : Option String → RangeSet}

@[simp] theorem lend_nil : pool.lend [] owner rows = rows := by
  simp [lend]

theorem mem_lend : row ∈ pool.lend keys owner rows ↔
    (row ∈ rows ∧ pool.key row ∉ keys) ∨ ∃ before ∈ rows, pool.key before ∈ keys ∧ before.setOwner owner = row := by
  unfold lend
  rw [List.mem_map]
  constructor
  · rintro ⟨before, member, rfl⟩
    split
    · next given => exact Or.inr ⟨before, member, given, rfl⟩
    · next kept => exact Or.inl ⟨member, kept⟩
  · rintro (⟨member, kept⟩ | ⟨before, member, given, rfl⟩)
    · exact ⟨row, member, by rw [if_neg kept]⟩
    · exact ⟨before, member, by rw [if_pos given]⟩

theorem Sound.lend (sound : pool.Sound rows) : pool.Sound (pool.lend keys owner rows) := by
  refine ⟨sound.distinct.map fun row => ?_, fun row member => ?_, fun row member => ?_⟩
  · split <;> rfl
  · rcases mem_lend.mp member with ⟨known, _⟩ | ⟨before, known, _, rfl⟩
    · exact sound.named row known
    · exact sound.named before known
  · rcases mem_lend.mp member with ⟨known, _⟩ | ⟨before, known, _, rfl⟩
    · exact sound.placed row known
    · exact sound.placed before known

theorem lastFree_inside (free : pool.lastFree scope ranges rows = .ok (some id)) : ranges.contains id = true := by
  rcases foldlM_candidate free with ⟨absurd, _⟩ | ⟨found, row, same, _, _, inside⟩
  · cases absurd
  · cases same
    exact inside

theorem allocateWithin_inside {lock : Lock} {attempts : Nat}
    (unheld : ∀ row ∈ rows, row.isOwnedIn (pool.scopeOf scope) owner = false) (distinct : pool.Distinct rows)
    (admits : pool.Admits scope)
    (done : pool.allocateWithin lock scope ranges owner attempts rows = .ok (id, after)) : ranges.contains id = true := by
  have search := find_of_not_owned unheld
  induction attempts with
  | zero =>
      obtain ⟨found, here, done⟩ := Result.bind_eq_ok.mp done
      cases search.symm.trans here
      cases done
  | succ attempts ih =>
      obtain ⟨found, here, done⟩ := Result.bind_eq_ok.mp done
      cases search.symm.trans here
      obtain ⟨candidate, chosen, done⟩ := Result.bind_eq_ok.mp done
      cases candidate with
      | none => cases done
      | some candidate =>
          obtain ⟨_, _, done⟩ := Result.bind_eq_ok.mp done
          obtain ⟨row, member, has, free⟩ := lastFree_eq_some chosen
          rcases take_cases owner distinct admits member has free with blocked | taken
          · rw [blocked] at done
            exact ih done
          · rw [taken] at done
            cases done
            exact lastFree_inside chosen

theorem allocate_lent {lock : Lock} (sound : pool.Sound rows) (admits : pool.Admits scope) (named : owner ≠ "")
    (unheld : ∀ row ∈ pool.lend keys owner rows, row.isOwnedIn (pool.scopeOf scope) owner = false)
    (done : pool.allocate lock scope ranges owner (pool.lend keys owner rows) = .ok (id, after)) :
    after = pool.lend (keys ++ [(pool.scopeOf scope, (id : Int))]) owner rows ∧
      ∃ row ∈ rows, pool.key row = (pool.scopeOf scope, (id : Int)) ∧ row.owner = "" ∧ ranges.contains id = true := by
  have lent : pool.Sound (pool.lend keys owner rows) := sound.lend
  have inside := allocateWithin_inside unheld lent.distinct admits done
  rcases allocateWithin_eq_ok lent.distinct admits done with ⟨_, row, member, has, owned⟩ | ⟨rfl, row, member, has, free⟩
  · have held := PoolRow.isOwnedIn_iff.mpr ⟨(PoolRow.hasId_iff.mp has).1, owned⟩
    rw [unheld row member] at held
    cases held
  · have known : row ∈ rows := by
      rcases mem_lend.mp member with ⟨known, _⟩ | ⟨before, _, _, rfl⟩
      · exact known
      · exact absurd free named
    have key := (hasId_iff_key admits).mp has
    refine ⟨?_, row, known, key, free, inside⟩
    unfold lend
    rw [List.map_map]
    refine List.map_congr_left fun other also => ?_
    simp only [Function.comp_apply, List.mem_append, List.mem_singleton]
    by_cases given : pool.key other ∈ keys
    · rw [if_pos given, if_pos (Or.inl given), handOver_of_owned named]
    · rw [if_neg given]
      by_cases same : pool.key other = (pool.scopeOf scope, (id : Int))
      · rw [sound.distinct.eq_of_key also known (same.trans key.symm), if_pos (Or.inr key), handOver_of_free has free]
      · rw [if_neg (by simp [given, same])]
        have elsewhere : other.hasId (pool.scopeOf scope) id = false := by
          rw [← Bool.not_eq_true, hasId_iff_key admits]
          exact same
        simp [handOver, elsewhere]

theorem filterMap_lend (admits : pool.Admits scope)
    (unheld : ∀ row ∈ rows, row.isOwnedIn (pool.scopeOf scope) owner = false) (lendable : pool.Lendable rangesOf keys rows) :
    (pool.lend keys owner rows).filterMap (returned (pool.scopeOf scope) (rangesOf (pool.scopeOf scope)) owner) =
      pool.lend (keys.filter (·.1 ≠ pool.scopeOf scope)) owner rows := by
  unfold lend
  rw [List.filterMap_map, ← List.filterMap_eq_map]
  refine List.filterMap_congr fun row member => ?_
  simp only [Function.comp_apply, List.mem_filter, decide_eq_true_eq]
  -- A row loses its owner when it is in the scope and was lent.
  by_cases taken : pool.key row ∈ keys
  · obtain ⟨free, inside⟩ := lendable row member taken
    by_cases here : (pool.key row).1 = pool.scopeOf scope
    · have owned : (row.setOwner owner).isOwnedIn (pool.scopeOf scope) owner = true :=
        PoolRow.isOwnedIn_iff.mpr ⟨by rwa [PoolRow.inScope_setOwner, inScope_iff admits], rfl⟩
      have covered : covers (rangesOf (pool.scopeOf scope)) (row.setOwner owner) = true := here ▸ inside
      rw [if_pos taken, if_neg (by simp [here]), Pool.returned, if_pos owned, if_pos covered, ← free]
      rfl
    · have elsewhere : (row.setOwner owner).isOwnedIn (pool.scopeOf scope) owner = false := by
        rw [← Bool.not_eq_true, PoolRow.isOwnedIn_iff, PoolRow.inScope_setOwner, inScope_iff admits]
        exact fun owned => here owned.1
      rw [if_pos taken, if_pos ⟨taken, here⟩, returned_of_other elsewhere]
  · rw [if_neg taken, if_neg fun given => taken given.1, returned_of_other (unheld row member)]

end OverlayFabric.Pool
