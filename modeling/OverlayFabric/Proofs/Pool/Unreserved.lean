import OverlayFabric.Proofs.Pool.Sound

namespace OverlayFabric.Pool

structure Unreserved (pool : Pool) (rows : List PoolRow) : Prop where
  distinct : pool.Distinct rows
  single : pool.Single rows
  words : ∀ row ∈ rows, row.owner ≠ "" → ∃ id, pool.word row.id = .ok id
  placed : ∀ row ∈ rows, pool.Admits row.scope

/-- What becomes of a row when its owner, or somebody else, gives back all it holds in the scope. -/
def returned (scope : Option String) (ranges : RangeSet) (owner : String) (row : PoolRow) : Option PoolRow :=
  if row.isOwnedIn scope owner then
    if covers ranges row then some (row.setOwner "") else none
  else some row

variable {pool : Pool} {op : Operation} {rows left : List PoolRow} {row : PoolRow} {id : Nat} {lock : Lock}
  {scope : Option String} {ranges : RangeSet} {owner : String} {keep : PoolRow → Bool}

theorem returned_of_other (other : row.isOwnedIn scope owner = false) : returned scope ranges owner row = some row :=
  if_neg (by simp [other])

theorem filterMap_returned_of_unheld (unheld : ∀ row ∈ rows, row.isOwnedIn scope owner = false) :
    rows.filterMap (returned scope ranges owner) = rows := by
  rw [List.filterMap_congr fun row member => returned_of_other (unheld row member), List.filterMap_some]

theorem mem_filterMap_given_back {wanted inside : PoolRow → Prop} [DecidablePred wanted] [DecidablePred inside] :
    row ∈ rows.filterMap (fun row =>
      if wanted row then if inside row then some (row.setOwner "") else none else some row) ↔
      (row ∈ rows ∧ ¬ wanted row) ∨ ∃ held ∈ rows, wanted held ∧ inside held ∧ row = held.setOwner "" := by
  rw [List.mem_filterMap]
  constructor
  · rintro ⟨before, known, given⟩
    split at given
    · next owned =>
        split at given
        · next inside => exact Or.inr ⟨before, known, owned, inside, (Option.some.inj given).symm⟩
        · cases given
    · next other =>
        cases given
        exact Or.inl ⟨known, other⟩
  · rintro (⟨known, other⟩ | ⟨held, known, owned, inside, rfl⟩)
    · exact ⟨row, known, if_neg other⟩
    · exact ⟨held, known, by rw [if_pos owned, if_pos inside]⟩

theorem mem_filterMap_returned : row ∈ rows.filterMap (returned scope ranges owner) ↔
    (row ∈ rows ∧ row.isOwnedIn scope owner = false) ∨
      ∃ held ∈ rows, held.isOwnedIn scope owner = true ∧ covers ranges held = true ∧ row = held.setOwner "" := by
  rw [← Bool.not_eq_true]
  exact mem_filterMap_given_back

theorem Distinct.foldl_giveBack (distinct : pool.Distinct rows) (admits : pool.Admits scope) {held : List Nat}
    (read : (rows.filter (·.isOwnedIn (pool.scopeOf scope) owner)).mapM (pool.word ·.id) = .ok held) :
    held.foldl (fun rows id => pool.giveBack scope ranges id rows) rows =
      rows.filterMap (returned (pool.scopeOf scope) ranges owner) := by
  rw [Pool.foldl_giveBack]
  refine List.filterMap_congr fun row member => ?_
  have same : (held.any fun id => row.hasId (pool.scopeOf scope) id) = row.isOwnedIn (pool.scopeOf scope) owner := by
    rw [Bool.eq_iff_iff, List.any_eq_true]
    constructor
    · rintro ⟨id, listed, has⟩
      obtain ⟨holder, among, word⟩ := (Result.mem_of_mapM read id).mp listed
      obtain ⟨known, owned⟩ := List.mem_filter.mp among
      have also := PoolRow.hasId_iff.mpr ⟨(PoolRow.isOwnedIn_iff.mp owned).1, (word_eq_ok.mp word).1⟩
      rwa [distinct.eq_of_hasId admits member known has also]
    · intro owned
      obtain ⟨word, fits⟩ := Result.ok_of_mapM read row (List.mem_filter.mpr ⟨member, owned⟩)
      exact ⟨word, (Result.mem_of_mapM read word).mpr ⟨row, List.mem_filter.mpr ⟨member, owned⟩, fits⟩,
        PoolRow.hasId_iff.mpr ⟨(PoolRow.isOwnedIn_iff.mp owned).1, (word_eq_ok.mp fits).1⟩⟩
  unfold Pool.freed returned
  rw [same]

theorem Distinct.release_eq (distinct : pool.Distinct rows) (admits : pool.Admits scope) {held : List Nat}
    (read : (rows.filter (·.isOwnedIn (pool.scopeOf scope) owner)).mapM (pool.word ·.id) = .ok held) :
    pool.release .free scope ranges owner rows =
      .ok (held, rows.filterMap (returned (pool.scopeOf scope) ranges owner)) := by
  unfold release
  rw [read, ← distinct.foldl_giveBack admits read]
  rfl

theorem take_eq_or : pool.take scope id owner rows = (rows, 0) ∨
    ∃ taken, pool.take scope id owner rows = (rows.map (handOver (pool.scopeOf scope) id owner), taken) := by
  unfold take
  generalize (if pool.isScoped then owner else scope.getD owner) = holder
  simp only
  split
  · exact Or.inl rfl
  · exact Or.inr ⟨_, rfl⟩

theorem allocateWithin_hands {attempts : Nat}
    (done : pool.allocateWithin lock scope ranges owner attempts rows = .ok (id, left)) :
    left = rows ∨ ∃ given : Nat, (given : Int) ≤ Number.wordLimit ∧
      (∀ row ∈ rows, row.isOwnedIn (pool.scopeOf scope) owner = false) ∧
      left = rows.map (handOver (pool.scopeOf scope) given owner) := by
  induction attempts with
  | zero =>
      obtain ⟨found, search, done⟩ := Result.bind_eq_ok.mp done
      cases found with
      | none => cases done
      | some held =>
          cases done
          exact Or.inl rfl
  | succ attempts ih =>
      obtain ⟨found, search, done⟩ := Result.bind_eq_ok.mp done
      cases found with
      | some held =>
          cases done
          exact Or.inl rfl
      | none =>
          obtain ⟨candidate, chosen, done⟩ := Result.bind_eq_ok.mp done
          cases candidate with
          | none => cases done
          | some given =>
              obtain ⟨_, _, done⟩ := Result.bind_eq_ok.mp done
              rcases @take_eq_or pool rows given scope owner with blocked | ⟨taken, handed⟩
              · rw [blocked] at done
                exact ih done
              · rw [handed] at done
                refine Or.inr ⟨given, lastFree_fits chosen, owned_of_find search, ?_⟩
                dsimp only at done
                split at done
                · cases done
                  rfl
                · -- More than one row was handed over, and the next attempt finds the first of them.
                  obtain ⟨row, member, has, free⟩ := lastFree_eq_some chosen
                  refine allocateWithin_of_held ⟨_, List.mem_map_of_mem member, ?_⟩ done
                  rw [handOver_of_free has free]
                  exact PoolRow.isOwnedIn_iff.mpr ⟨by simpa using (PoolRow.hasId_iff.mp has).1, rfl⟩

theorem sync_unplaced {report : SyncReport} (loose : ¬ pool.Admits scope)
    (done : pool.sync lock scope ranges rows = .ok (report, left)) : ∃ keep, left = rows.filter keep := by
  have inScopes : pool.isScoped = true := by_contra fun unscoped => loose fun given => absurd given unscoped
  have everywhere : scope = none := by
    rw [← Option.not_isSome_iff_eq_none]
    exact fun placed => loose fun _ => placed
  have all : pool.scopeOf scope = none := by rw [scopeOf, everywhere, ite_self]
  obtain ⟨_, _, done⟩ := Result.bind_eq_ok.mp done
  simp only [all, inScopes] at done
  obtain ⟨present, _, done⟩ := Result.bind_eq_ok.mp done
  split at done
  · cases done
  · next absent =>
      have nothing : missing ranges present = [] := by simpa using absent
      simp only [nothing, place, inScopes] at done
      cases done
      exact ⟨_, List.append_nil _⟩

namespace Unreserved

variable (table : pool.Unreserved rows)

theorem nil : pool.Unreserved [] := ⟨List.nodup_nil, by simp [Single], by simp, by simp⟩

section Step

include table

theorem filter : pool.Unreserved (rows.filter keep) :=
  ⟨table.distinct.sublist (List.filter_sublist.map _),
    table.single.of_owned fun _ member _ => List.mem_of_mem_filter member,
    fun row member => table.words row (List.mem_of_mem_filter member),
    fun row member => table.placed row (List.mem_of_mem_filter member)⟩

theorem handOver (fits : (id : Int) ≤ Number.wordLimit)
    (unheld : ∀ row ∈ rows, row.isOwnedIn (pool.scopeOf scope) owner = false) :
    pool.Unreserved (rows.map (handOver (pool.scopeOf scope) id owner)) := by
  refine ⟨table.distinct.map fun _ => key_handOver, table.single.handOver table.distinct unheld, ?_, ?_⟩
  · intro row member named
    obtain ⟨before, known, rfl⟩ := List.mem_map.mp member
    unfold Pool.handOver at named ⊢
    split
    · next handed => exact ⟨id, word_eq_ok.mpr ⟨(PoolRow.hasId_iff.mp (Bool.and_eq_true_iff.mp handed).1).2, fits⟩⟩
    · next kept =>
        rw [if_neg kept] at named
        exact table.words before known named
  · intro row member
    obtain ⟨before, known, rfl⟩ := List.mem_map.mp member
    unfold Pool.handOver
    split <;> exact table.placed before known

theorem freed {ids : List Nat} {place : Option String} : pool.Unreserved (rows.filterMap (freed place ranges ids)) := by
  have cases {row : PoolRow} (member : row ∈ rows.filterMap (Pool.freed place ranges ids)) :
      row ∈ rows ∨ ∃ before ∈ rows, row = before.setOwner "" := by
    obtain ⟨before, known, given⟩ := List.mem_filterMap.mp member
    unfold Pool.freed at given
    split at given
    · split at given <;> cases given
      exact Or.inr ⟨before, known, rfl⟩
    · cases given
      exact Or.inl known
  have kept (row : PoolRow) (member : row ∈ rows.filterMap (Pool.freed place ranges ids)) (named : row.owner ≠ "") :
      row ∈ rows := by
    rcases cases member with known | ⟨before, _, rfl⟩
    · exact known
    · exact absurd rfl named
  refine ⟨table.distinct.filterMap fun row left => key_of_freed, table.single.of_owned kept, ?_, ?_⟩
  · exact fun row member named => table.words row (kept row member named) named
  · intro row member
    rcases cases member with known | ⟨before, known, rfl⟩
    · exact table.placed row known
    · exact table.placed before known

theorem place {absent : List Nat} (admits : pool.Admits scope) (once : absent.Nodup)
    (missing : ∀ id ∈ absent, ∀ row ∈ rows, row.hasId (pool.scopeOf scope) id = false) :
    pool.Unreserved (pool.place rows (absent.map fun id : Nat => ⟨pool.scopeOf scope, id, ""⟩)) := by
  have fresh {row : PoolRow} (named : row.owner ≠ "")
      (member : row ∈ pool.place rows (absent.map fun id : Nat => ⟨pool.scopeOf scope, id, ""⟩)) : row ∈ rows := by
    rcases mem_place.mp member with known | new
    · exact known
    · obtain ⟨id, _, rfl⟩ := List.mem_map.mp new
      exact absurd rfl named
  refine ⟨table.distinct.place ?_ ?_, table.single.of_owned fun row member named => fresh named member,
    fun row member named => table.words row (fresh named member) named, ?_⟩
  · unfold Distinct
    rw [List.map_map]
    refine once.map ?_
    intro a b same
    simp only [Function.comp_apply, key_ofScope, Prod.mk.injEq, true_and] at same
    exact_mod_cast same
  · intro row member new came same
    obtain ⟨id, absent, rfl⟩ := List.mem_map.mp came
    rw [key_ofScope, ← hasId_iff_key admits, missing id absent row member] at same
    cases same
  · intro row member
    rcases mem_place.mp member with known | new
    · exact table.placed row known
    · obtain ⟨id, _, rfl⟩ := List.mem_map.mp new
      exact admits_scopeOf admits

theorem sync {report : SyncReport} (done : pool.sync lock scope ranges rows = .ok (report, left)) :
    pool.Unreserved left := by
  by_cases admits : pool.Admits scope
  · obtain ⟨absent, once, missing, _, rfl⟩ := sync_eq_ok done
    exact table.filter.place admits once fun id listed row member =>
      ((missing id).mp listed).2 row (List.mem_of_mem_filter member)
  · obtain ⟨keep, rfl⟩ := sync_unplaced admits done
    exact table.filter

theorem allocate (done : pool.allocate lock scope ranges owner rows = .ok (id, left)) : pool.Unreserved left := by
  rcases allocateWithin_hands done with rfl | ⟨given, fits, unheld, rfl⟩
  · exact table
  · exact table.handOver fits unheld

/-- Only a reservation makes a table lose what it owes to going without. -/
theorem after (granted : ∀ id owner, op.action ≠ .reserve id owner) : pool.Unreserved (pool.after rows op) := by
  unfold Pool.after
  cases outcome : pool.perform op rows with
  | error e => exact table
  | ok result =>
      obtain ⟨answer, left⟩ := result
      unfold perform at outcome
      cases action : op.action with
      | sync =>
          simp only [action] at outcome
          obtain ⟨_, done, same⟩ := Result.map_eq_ok.mp outcome
          cases same
          exact table.sync done
      | allocate owner =>
          simp only [action] at outcome
          obtain ⟨_, done, same⟩ := Result.map_eq_ok.mp outcome
          cases same
          exact table.allocate done
      | release owner =>
          simp only [action] at outcome
          obtain ⟨_, done, same⟩ := Result.map_eq_ok.mp outcome
          cases same
          obtain ⟨given, _⟩ := release_eq_ok done
          rw [given]
          exact table.freed
      | reserve id owner => exact absurd action (granted id owner)
      | releaseId id =>
          simp only [action] at outcome
          obtain ⟨_, done, same⟩ := Result.map_eq_ok.mp outcome
          cases same
          rw [releaseId_eq_ok done]
          exact table.freed

end Step

section Owner

variable (admits : pool.Admits scope) (named : owner ≠ "")

include table admits named

theorem owned_once : (rows.filter (·.isOwnedIn (pool.scopeOf scope) owner)).length ≤ 1 := by
  have apart : (rows.filter (·.isOwnedIn (pool.scopeOf scope) owner)).Nodup :=
    (List.Nodup.of_map _ table.distinct).filter _
  have alike : ∀ a ∈ rows.filter (·.isOwnedIn (pool.scopeOf scope) owner),
      ∀ b ∈ rows.filter (·.isOwnedIn (pool.scopeOf scope) owner), a = b := by
    intro a aMember b bMember
    obtain ⟨known, owned⟩ := List.mem_filter.mp aMember
    obtain ⟨second, also⟩ := List.mem_filter.mp bMember
    exact table.single.eq_of_isOwnedIn admits named known second owned also
  cases held : rows.filter (·.isOwnedIn (pool.scopeOf scope) owner) with
  | nil => simp
  | cons first others =>
      rw [held] at apart alike
      cases others with
      | nil => simp
      | cons second rest =>
          have same := alike first (.head _) second (.tail _ (.head _))
          exact absurd (same ▸ .head _) (List.nodup_cons.mp apart).1

theorem filter_owned : rows.filter (·.isOwnedIn (pool.scopeOf scope) owner) =
    (rows.find? (·.isOwnedIn (pool.scopeOf scope) owner)).toList := by
  have once := table.owned_once admits named
  rw [← List.head?_filter]
  generalize rows.filter (·.isOwnedIn (pool.scopeOf scope) owner) = held at once ⊢
  match held with
  | [] => rfl
  | [row] => rfl
  | first :: second :: rest => simp at once

theorem find_ok : ∃ found, pool.find scope owner rows = .ok found ∧
    (rows.filter (·.isOwnedIn (pool.scopeOf scope) owner)).mapM (pool.word ·.id) = .ok found.toList := by
  rw [table.filter_owned admits named]
  unfold find
  cases first : rows.find? (·.isOwnedIn (pool.scopeOf scope) owner) with
  | none => exact ⟨none, rfl, rfl⟩
  | some row =>
      have owned := (PoolRow.isOwnedIn_iff.mp (List.find?_some first)).2
      obtain ⟨id, word⟩ := table.words row (List.mem_of_find?_eq_some first) (owned ▸ named)
      refine ⟨some id, ?_, ?_⟩
      · simp only [word]
        rfl
      · rw [Option.toList_some, List.mapM_cons, word]
        rfl

theorem find_eq_some_iff : pool.find scope owner rows = .ok (some id) ↔
    ∃ row ∈ rows, row.hasId (pool.scopeOf scope) id = true ∧ row.owner = owner := by
  refine ⟨find_eq_some, ?_⟩
  rintro ⟨row, member, has, owned⟩
  obtain ⟨here, same⟩ := PoolRow.hasId_iff.mp has
  obtain ⟨found, search, read⟩ := table.find_ok admits named
  have held := List.mem_filter.mpr ⟨member, PoolRow.isOwnedIn_iff.mpr ⟨here, owned⟩⟩
  obtain ⟨word, fits⟩ := Result.ok_of_mapM read row held
  have listed := (Result.mem_of_mapM read word).mpr ⟨row, held, fits⟩
  have its : word = id := Int.ofNat.inj ((word_eq_ok.mp fits).1.symm.trans same)
  rw [search, Option.mem_toList.mp listed, its]

theorem release_eq : ∃ found, pool.find scope owner rows = .ok found ∧
    pool.release .free scope ranges owner rows =
      .ok (found.toList, rows.filterMap (returned (pool.scopeOf scope) ranges owner)) := by
  obtain ⟨found, search, read⟩ := table.find_ok admits named
  exact ⟨found, search, table.distinct.release_eq admits read⟩

end Owner

end Unreserved

end OverlayFabric.Pool
