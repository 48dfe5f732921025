import OverlayFabric.Proofs.Pool.Table
import OverlayFabric.Proofs.Range.Set

namespace OverlayFabric

namespace Pool

variable {pool : Pool} {lock : Lock} {scope : Option String} {ranges : RangeSet} {owner : String}
  {rows after : List PoolRow} {row : PoolRow} {id : Nat}

theorem word_eq_ok {raw : Int} : pool.word raw = .ok id ↔ raw = id ∧ (id : Int) ≤ Number.wordLimit := by
  unfold word word?
  by_cases fits : 0 ≤ raw ∧ raw ≤ Number.wordLimit
  · simp [fits]
    omega
  · simp [fits]
    omega

theorem word_of_fits (fits : row.FitsWord) : pool.word row.id = .ok row.id.toNat := by
  unfold PoolRow.FitsWord at fits
  rw [word_eq_ok]
  omega

theorem word_of_not_fits (misfit : ¬ row.FitsWord) :
    pool.word row.id = .error (.corrupt pool.table s!"id {row.id} does not fit u32") := by
  have none : word? row.id = none := if_neg misfit
  rw [word, none]

theorem word_eq_error {raw : Int} {e : StoreError} (failed : pool.word raw = .error e) :
    ∃ reason, e = .corrupt pool.table reason := by
  unfold word at failed
  split at failed
  · cases failed
  · cases failed
    exact ⟨_, rfl⟩

theorem find_eq_some (found : pool.find scope owner rows = .ok (some id)) :
    ∃ row ∈ rows, row.hasId (pool.scopeOf scope) id = true ∧ row.owner = owner := by
  unfold find at found
  split at found
  · rename_i row first
    obtain ⟨raw, fits, same⟩ := Result.map_eq_ok.mp found
    cases same
    have owned := PoolRow.isOwnedIn_iff.mp (List.find?_some first)
    exact ⟨row, List.mem_of_find?_eq_some first,
      PoolRow.hasId_iff.mpr ⟨owned.1, (word_eq_ok.mp fits).1⟩, owned.2⟩
  · cases found

theorem find_eq_error {e : StoreError} (failed : pool.find scope owner rows = .error e) :
    ∃ reason, e = .corrupt pool.table reason := by
  unfold find at failed
  split at failed
  · rename_i row _
    cases outcome : pool.word row.id with
    | ok id =>
        rw [outcome] at failed
        cases failed
    | error other =>
        rw [outcome] at failed
        cases failed
        exact word_eq_error outcome
  · cases failed

theorem find_of_not_owned (unheld : ∀ row ∈ rows, row.isOwnedIn (pool.scopeOf scope) owner = false) :
    pool.find scope owner rows = .ok none := by
  have missing : rows.find? (·.isOwnedIn (pool.scopeOf scope) owner) = none := by
    simpa using unheld
  rw [find, missing]

theorem foldlM_candidate {free : List PoolRow} {first last : Option Nat}
    (chosen : free.foldlM (fun candidate row => do
      let id ← pool.word row.id
      return if ranges.contains id then some id else candidate) first = .ok last) :
    (last = first ∧ ∀ row ∈ free, ranges.contains row.id.toNat = false) ∨
      ∃ id row, last = some id ∧ row ∈ free ∧ pool.word row.id = .ok id ∧ ranges.contains id = true := by
  induction free generalizing first with
  | nil =>
      cases chosen
      exact Or.inl ⟨rfl, by simp⟩
  | cons row rest ih =>
      rw [List.foldlM_cons] at chosen
      obtain ⟨next, step, chosen⟩ := Result.bind_eq_ok.mp chosen
      obtain ⟨id, fits, step⟩ := Result.bind_eq_ok.mp step
      cases step
      rcases ih chosen with ⟨rfl, others⟩ | ⟨id', row', rfl, member, fits', inside⟩
      · by_cases inside : ranges.contains id = true
        · exact Or.inr ⟨id, row, by simp [inside], .head _, fits, inside⟩
        · refine Or.inl ⟨by simp [inside], ?_⟩
          intro r member
          rcases List.mem_cons.mp member with rfl | member
          · simpa [(word_eq_ok.mp fits).1] using inside
          · exact others r member
      · exact Or.inr ⟨id', row', rfl, .tail _ member, fits', inside⟩

theorem foldlM_eq_error {free : List PoolRow} {first : Option Nat} {e : StoreError}
    (failed : free.foldlM (fun candidate row => do
      let id ← pool.word row.id
      return if ranges.contains id then some id else candidate) first = .error e) :
    ∃ reason, e = .corrupt pool.table reason := by
  induction free generalizing first with
  | nil => cases failed
  | cons row rest ih =>
      rw [List.foldlM_cons] at failed
      rcases Result.bind_eq_error.mp failed with step | ⟨next, _, later⟩
      · rcases Result.bind_eq_error.mp step with word | ⟨id, _, done⟩
        · exact word_eq_error word
        · cases done
      · exact ih later

theorem lastFree_of_all_owned (taken : ∀ row ∈ rows, row.isFreeIn (pool.scopeOf scope) = false) :
    pool.lastFree scope ranges rows = .ok none := by
  have empty : rows.filter (·.isFreeIn (pool.scopeOf scope)) = [] := by
    simpa [List.filter_eq_nil_iff] using taken
  rw [lastFree, empty]
  rfl

theorem lastFree_eq_some (free : pool.lastFree scope ranges rows = .ok (some id)) :
    ∃ row ∈ rows, row.hasId (pool.scopeOf scope) id = true ∧ row.owner = "" := by
  rcases foldlM_candidate free with ⟨absurd, _⟩ | ⟨found, row, same, member, named, _⟩
  · cases absurd
  · cases same
    obtain ⟨member, isOpen⟩ := List.mem_filter.mp member
    have := PoolRow.isFreeIn_iff.mp isOpen
    exact ⟨row, member, PoolRow.hasId_iff.mpr ⟨this.1, (word_eq_ok.mp named).1⟩, this.2⟩

theorem lastFree_fits (free : pool.lastFree scope ranges rows = .ok (some id)) : (id : Int) ≤ Number.wordLimit := by
  rcases foldlM_candidate free with ⟨absurd, _⟩ | ⟨found, row, same, _, word, _⟩
  · cases absurd
  · cases same
    exact (word_eq_ok.mp word).2

theorem lastFree_eq_none (none : pool.lastFree scope ranges rows = .ok none) :
    ∀ row ∈ rows, row.isFreeIn (pool.scopeOf scope) = true → ranges.contains row.id.toNat = false := by
  rcases foldlM_candidate none with ⟨_, outside⟩ | ⟨id, row, absurd, _⟩
  · exact fun row member free => outside row (List.mem_filter.mpr ⟨member, free⟩)
  · cases absurd

def handOver (scope : Option String) (id : Nat) (owner : String) (row : PoolRow) : PoolRow :=
  if row.hasId scope id && row.isFree then row.setOwner owner else row

@[simp] theorem key_handOver {scope : Option String} : pool.key (handOver scope id owner row) = pool.key row := by
  unfold handOver
  split <;> simp

theorem handOver_of_owned {scope : Option String} (owned : row.owner ≠ "") :
    handOver scope id owner row = row := by
  simp [handOver, PoolRow.isFree, owned]

theorem handOver_of_free {scope : Option String} (has : row.hasId scope id = true) (free : row.owner = "") :
    handOver scope id owner row = row.setOwner owner := by
  simp [handOver, PoolRow.isFree, has, free]

theorem take_cases (owner : String) (distinct : pool.Distinct rows) (admits : pool.Admits scope) (member : row ∈ rows)
    (has : row.hasId (pool.scopeOf scope) id = true) (free : row.owner = "") :
    pool.take scope id owner rows = (rows, 0) ∨
      pool.take scope id owner rows = (rows.map (handOver (pool.scopeOf scope) id owner), 1) := by
  unfold take
  generalize (if pool.isScoped then owner else scope.getD owner) = holder
  simp only
  split
  · exact Or.inl rfl
  · right
    have wanted : ∀ r ∈ rows, (r.hasId (pool.scopeOf scope) id && r.isFree) = true ↔ r = row := by
      intro r known
      constructor
      · intro both
        exact distinct.eq_of_hasId admits known member (Bool.and_eq_true_iff.mp both).1 has
      · rintro rfl
        simp [has, PoolRow.isFree, free]
    have once : rows.countP (fun r => r.hasId (pool.scopeOf scope) id && r.isFree) = rows.count row := by
      unfold List.count
      exact List.countP_congr fun r known => by simp [wanted r known]
    rw [once, List.count_eq_one_of_mem (List.Nodup.of_map _ distinct) member]
    rfl

theorem allocateWithin_eq_ok (distinct : pool.Distinct rows) (admits : pool.Admits scope) {attempts : Nat}
    (done : pool.allocateWithin lock scope ranges owner attempts rows = .ok (id, after)) :
    (after = rows ∧ ∃ row ∈ rows, row.hasId (pool.scopeOf scope) id = true ∧ row.owner = owner) ∨
      (after = rows.map (handOver (pool.scopeOf scope) id owner) ∧
        ∃ row ∈ rows, row.hasId (pool.scopeOf scope) id = true ∧ row.owner = "") := by
  induction attempts with
  | zero =>
      obtain ⟨found, search, done⟩ := Result.bind_eq_ok.mp done
      cases found with
      | none => cases done
      | some held =>
          cases done
          exact Or.inl ⟨rfl, find_eq_some search⟩
  | succ attempts ih =>
      obtain ⟨found, search, done⟩ := Result.bind_eq_ok.mp done
      cases found with
      | some held =>
          cases done
          exact Or.inl ⟨rfl, find_eq_some search⟩
      | none =>
          obtain ⟨candidate, chosen, done⟩ := Result.bind_eq_ok.mp done
          cases candidate with
          | none => cases done
          | some candidate =>
              obtain ⟨_, _, done⟩ := Result.bind_eq_ok.mp done
              obtain ⟨row, member, has, free⟩ := lastFree_eq_some chosen
              rcases take_cases owner distinct admits member has free with blocked | taken
              · rw [blocked] at done
                exact ih done
              · rw [taken] at done
                cases done
                exact Or.inr ⟨rfl, row, member, has, free⟩

theorem owned_of_take {left : List PoolRow} (taken : pool.take scope id owner rows = (left, 1)) :
    ∃ row ∈ left, row.hasId (pool.scopeOf scope) id = true ∧ row.owner = owner := by
  unfold take at taken
  generalize (if pool.isScoped then owner else scope.getD owner) = holder at taken
  simp only at taken
  split at taken
  · cases taken
  · obtain ⟨rfl, once⟩ := Prod.mk.inj taken
    obtain ⟨row, member, wanted⟩ := List.countP_pos_iff.mp (once ▸ Nat.one_pos)
    refine ⟨row.setOwner owner, List.mem_map.mpr ⟨row, member, by rw [if_pos wanted]⟩, ?_, rfl⟩
    simpa using (Bool.and_eq_true_iff.mp wanted).1

theorem owned_of_allocateWithin {attempts : Nat}
    (done : pool.allocateWithin lock scope ranges owner attempts rows = .ok (id, after)) :
    ∃ row ∈ after, row.hasId (pool.scopeOf scope) id = true ∧ row.owner = owner := by
  induction attempts generalizing rows with
  | zero =>
      obtain ⟨found, search, done⟩ := Result.bind_eq_ok.mp done
      cases found with
      | none => cases done
      | some held =>
          cases done
          exact find_eq_some search
  | succ attempts ih =>
      obtain ⟨found, search, done⟩ := Result.bind_eq_ok.mp done
      cases found with
      | some held =>
          cases done
          exact find_eq_some search
      | none =>
          obtain ⟨candidate, chosen, done⟩ := Result.bind_eq_ok.mp done
          cases candidate with
          | none => cases done
          | some candidate =>
              obtain ⟨_, _, done⟩ := Result.bind_eq_ok.mp done
              simp only at done
              split at done
              · next once =>
                  cases done
                  exact owned_of_take (Prod.ext rfl once)
              · exact ih done

theorem allocateWithin_eq_exhausted (distinct : pool.Distinct rows) (admits : pool.Admits scope)
    {attempts : Nat} {name place : String}
    (failed : pool.allocateWithin lock scope ranges owner attempts rows = .error (.exhausted name place)) :
    pool.lastFree scope ranges rows = .ok none := by
  induction attempts with
  | zero =>
      rcases Result.bind_eq_error.mp failed with search | ⟨found, _, failed⟩
      · obtain ⟨_, absurd⟩ := find_eq_error search
        cases absurd
      · cases found <;> cases failed
  | succ attempts ih =>
      rcases Result.bind_eq_error.mp failed with search | ⟨found, _, failed⟩
      · obtain ⟨_, absurd⟩ := find_eq_error search
        cases absurd
      · cases found with
        | some held => cases failed
        | none =>
            rcases Result.bind_eq_error.mp failed with corrupt | ⟨candidate, chosen, failed⟩
            · obtain ⟨_, absurd⟩ := foldlM_eq_error corrupt
              cases absurd
            · cases candidate with
              | none => exact chosen
              | some candidate =>
                  rcases Result.bind_eq_error.mp failed with busy | ⟨_, _, failed⟩
                  · cases lock <;> cases busy
                  · obtain ⟨row, member, has, free⟩ := lastFree_eq_some chosen
                    rcases take_cases owner distinct admits member has free with blocked | taken
                    · rw [blocked] at failed
                      exact ih failed
                    · rw [taken] at failed
                      cases failed

theorem allocate_of_exhausted (unheld : ∀ row ∈ rows, row.isOwnedIn (pool.scopeOf scope) owner = false)
    (taken : ∀ row ∈ rows, row.isFreeIn (pool.scopeOf scope) = false) :
    pool.allocate lock scope ranges owner rows = .error (.exhaustedIn pool.name scope) := by
  unfold allocate allocateAttempts allocateWithin
  rw [find_of_not_owned unheld, lastFree_of_all_owned taken]
  rfl

def freed (scope : Option String) (ranges : RangeSet) (ids : List Nat) (row : PoolRow) : Option PoolRow :=
  if ids.any (row.hasId scope ·) then
    if covers ranges row then some (row.setOwner "") else none
  else some row

theorem key_of_freed {scope : Option String} {ids : List Nat} {left : PoolRow}
    (given : freed scope ranges ids row = some left) : pool.key left = pool.key row := by
  unfold freed at given
  split at given
  · split at given
    · cases given
      rfl
    · cases given
  · cases given
    rfl

theorem freed_of_other {scope : Option String} {ids : List Nat}
    (other : ∀ id ∈ ids, row.hasId scope id = false) : freed scope ranges ids row = some row := by
  have : ids.any (row.hasId scope ·) = false := by simpa using other
  simp [freed, this]

theorem freed_bind {scope : Option String} {ids : List Nat} :
    (freed scope ranges [id] row).bind (freed scope ranges ids) = freed scope ranges (id :: ids) row := by
  by_cases has : row.hasId scope id = true
  · by_cases inside : covers ranges row = true
    · have first : freed scope ranges [id] row = some (row.setOwner "") := by
        simp [freed, has, inside]
      have all : freed scope ranges (id :: ids) row = some (row.setOwner "") := by
        simp [freed, has, inside]
      have again : freed scope ranges ids (row.setOwner "") = some (row.setOwner "") := by
        have kept : covers ranges (row.setOwner "") = true := inside
        unfold freed
        split <;> rfl
      rw [first, all, Option.bind_some, again]
    · simp [freed, has, inside]
  · simp [freed, has]

theorem giveBack_eq : pool.giveBack scope ranges id rows =
    rows.filterMap (freed (pool.scopeOf scope) ranges [id]) := by
  unfold giveBack
  simp only
  split
  · rename_i inside
    rw [← List.filterMap_eq_map]
    apply List.filterMap_congr
    intro row _
    by_cases has : row.hasId (pool.scopeOf scope) id = true
    · have named := (PoolRow.hasId_iff.mp has).2
      simp [freed, has, covers, named, inside]
    · simp [freed, has]
  · rename_i outside
    rw [← List.filterMap_eq_filter]
    apply List.filterMap_congr
    intro row _
    by_cases has : row.hasId (pool.scopeOf scope) id = true
    · have named := (PoolRow.hasId_iff.mp has).2
      simp [freed, has, covers, named, outside, Option.guard]
    · simp [freed, has, Option.guard]

theorem foldl_giveBack (ids : List Nat) :
    ids.foldl (fun rows id => pool.giveBack scope ranges id rows) rows =
      rows.filterMap (freed (pool.scopeOf scope) ranges ids) := by
  induction ids generalizing rows with
  | nil =>
      have same : freed (pool.scopeOf scope) ranges [] = some := by
        funext row
        simp [freed]
      rw [List.foldl_nil, same, List.filterMap_some]
  | cons id ids ih =>
      rw [List.foldl_cons, ih, giveBack_eq, List.filterMap_filterMap]
      exact List.filterMap_congr fun row _ => freed_bind

theorem release_eq_ok {held : List Nat} (done : pool.release lock scope ranges owner rows = .ok (held, after)) :
    after = rows.filterMap (freed (pool.scopeOf scope) ranges held) ∧
      ∀ id, id ∈ held ↔ ∃ row ∈ rows, row.isOwnedIn (pool.scopeOf scope) owner = true ∧
        pool.word row.id = .ok id := by
  obtain ⟨_, _, done⟩ := Result.bind_eq_ok.mp done
  obtain ⟨ids, read, done⟩ := Result.bind_eq_ok.mp done
  cases done
  refine ⟨foldl_giveBack _, fun id => ?_⟩
  rw [Result.mem_of_mapM read]
  simp [and_assoc]

theorem releaseId_eq_ok {known : Bool} (done : pool.releaseId lock scope ranges id rows = .ok (known, after)) :
    after = rows.filterMap (freed (pool.scopeOf scope) ranges [id]) := by
  obtain ⟨_, _, done⟩ := Result.bind_eq_ok.mp done
  split at done
  · cases done
    exact giveBack_eq
  · rename_i absent
    cases done
    rw [List.filterMap_congr (g := some), List.filterMap_some]
    intro row member
    apply freed_of_other
    simp only [List.any_eq_true, not_exists, not_and, Bool.not_eq_true] at absent
    simpa using absent row member

theorem reserve_eq_ok (done : pool.reserve lock scope id owner rows = .ok after) :
    ((∀ row ∈ rows, row.hasId (pool.scopeOf scope) id = false) ∧
        after = pool.place rows [⟨pool.scopeOf scope, id, owner⟩]) ∨
      (after = rows ∧ ∃ row ∈ rows, row.hasId (pool.scopeOf scope) id = true ∧ row.owner = owner) ∨
      (after = rows.map (handOver (pool.scopeOf scope) id owner) ∧
        ∃ row ∈ rows, row.hasId (pool.scopeOf scope) id = true ∧ row.owner = "") := by
  obtain ⟨_, _, done⟩ := Result.bind_eq_ok.mp done
  simp only at done
  split at done
  · rename_i missing
    split at done
    · cases done
    · cases done
      exact Or.inl ⟨by simpa using missing, rfl⟩
  · rename_i row first
    have member := List.mem_of_find?_eq_some first
    have has := List.find?_some first
    split at done
    · rename_i free
      cases done
      exact Or.inr (Or.inr ⟨rfl, row, member, has, by simpa [PoolRow.isFree] using free⟩)
    · split at done
      · rename_i same
        cases done
        exact Or.inr (Or.inl ⟨rfl, row, member, has, same⟩)
      · cases done

theorem missing_eq_filter {ranges : RangeSet} {present : List Nat} :
    missing ranges present = ranges.ids.filter fun id => !present.contains id := by
  simp [missing]

theorem mem_present {present : List Nat}
    (read : (rows.filter (·.inScope scope)).mapM (pool.word ·.id) = .ok present) :
    id ∈ present ↔ ∃ row ∈ rows, row.hasId scope id = true := by
  rw [Result.mem_of_mapM read]
  constructor
  · rintro ⟨row, member, fits⟩
    obtain ⟨member, here⟩ := List.mem_filter.mp member
    exact ⟨row, member, PoolRow.hasId_iff.mpr ⟨here, (word_eq_ok.mp fits).1⟩⟩
  · rintro ⟨row, member, has⟩
    obtain ⟨here, named⟩ := PoolRow.hasId_iff.mp has
    have found := List.mem_filter.mpr ⟨member, here⟩
    obtain ⟨word, fits⟩ := Result.ok_of_mapM read row found
    have same : word = id := by exact_mod_cast (word_eq_ok.mp fits).1.symm.trans named
    exact ⟨row, found, same ▸ fits⟩

theorem sync_nil (admits : pool.Admits scope) : pool.sync .free scope ranges [] =
    .ok (⟨ranges.ids.length, 0, 0⟩, ranges.ids.map fun id : Nat => ⟨pool.scopeOf scope, id, ""⟩) := by
  have placed (fresh : List PoolRow) : pool.place [] fresh = fresh := by
    unfold place
    split <;> simp
  have whole : missing ranges [] = ranges.ids := by simp [missing_eq_filter]
  have within : (pool.isScoped && (pool.scopeOf scope).isNone) = false := by
    cases pool <;> cases scope <;> simp_all [Admits, isScoped, scopeOf]
  unfold sync
  simp only [List.filter_nil, List.countP_nil, placed, List.mapM_nil, within, Lock.claim_free, pure_bind,
    Bool.false_and, Bool.false_eq_true, if_false, whole]
  rfl

theorem sync_eq_ok {report : SyncReport} (done : pool.sync lock scope ranges rows = .ok (report, after)) :
    ∃ absent : List Nat, absent.Nodup ∧
      (∀ id, id ∈ absent ↔ ranges.contains id = true ∧
        ∀ row ∈ rows, row.hasId (pool.scopeOf scope) id = false) ∧
      (∀ row ∈ rows, row.inScope (pool.scopeOf scope) = true → ∃ id : Nat, row.id = id) ∧
      after = pool.place
        (rows.filter fun row => !(row.isFreeIn (pool.scopeOf scope) && !covers ranges row))
        (absent.map fun id : Nat => ⟨pool.scopeOf scope, id, ""⟩) := by
  obtain ⟨_, _, done⟩ := Result.bind_eq_ok.mp done
  simp only at done
  obtain ⟨present, read, done⟩ := Result.bind_eq_ok.mp done
  refine ⟨missing ranges present, ranges.nodup_ids.filter _, fun id => ?_, ?_, ?_⟩
  · rw [mem_missing, mem_present read]
    simp
  · intro row member here
    obtain ⟨word, fits⟩ := Result.ok_of_mapM read row (List.mem_filter.mpr ⟨member, here⟩)
    exact ⟨word, (word_eq_ok.mp fits).1⟩
  · split at done
    · cases done
    · cases done
      rfl

end Pool
end OverlayFabric
