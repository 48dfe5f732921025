import OverlayFabric.Proofs.Store.Fault

namespace OverlayFabric.Pool

def isOpen (place : Option String) (ranges : RangeSet) (row : PoolRow) : Bool := row.isFreeIn place && covers ranges row

variable {pool : Pool} {scope place : Option String} {ranges : RangeSet} {rows start front back offered : List PoolRow}
  {row : PoolRow} {owner : String} {owners : List String} {lock : Lock} {id : Nat}

theorem foldlM_last {free : List PoolRow} (fit : ∀ row ∈ free, row.FitsWord) (first : Option Nat) :
    free.foldlM (fun candidate row => do
      let id ← pool.word row.id
      return if ranges.contains id then some id else candidate) first =
    .ok (((free.filter (covers ranges)).getLast?.map (·.id.toNat)).or first) := by
  induction free generalizing first with
  | nil => rfl
  | cons row rest ih =>
      rw [List.foldlM_cons, word_of_fits (fit row (.head _))]
      change List.foldlM _ (if ranges.contains row.id.toNat = true then some row.id.toNat else first) rest = _
      rw [ih fun other member => fit other (.tail _ member)]
      by_cases inside : covers ranges row = true
      · have contained : ranges.contains row.id.toNat = true := inside
        rw [if_pos contained, List.filter_cons_of_pos inside, List.getLast?_cons]
        cases (rest.filter (covers ranges)).getLast? <;> rfl
      · have outside : ¬ ranges.contains row.id.toNat = true := inside
        rw [if_neg outside, List.filter_cons_of_neg inside]

theorem lastFree_eq (fit : ∀ row ∈ rows, row.inScope (pool.scopeOf scope) = true → row.FitsWord) :
    pool.lastFree scope ranges rows =
      .ok ((rows.filter (isOpen (pool.scopeOf scope) ranges)).getLast?.map (·.id.toNat)) := by
  have free : ∀ row ∈ rows.filter (·.isFreeIn (pool.scopeOf scope)), row.FitsWord := by
    intro row member
    obtain ⟨known, free⟩ := List.mem_filter.mp member
    exact fit row known (PoolRow.isFreeIn_iff.mp free).1
  have both : isOpen (pool.scopeOf scope) ranges = fun row => covers ranges row && row.isFreeIn (pool.scopeOf scope) :=
    funext fun row => Bool.and_comm _ _
  rw [lastFree, foldlM_last free, Option.or_none, List.filter_filter, both]

section Open

variable (fit : ∀ row ∈ rows, row.inScope place = true → row.FitsWord)
include fit

theorem of_mem_open (member : row ∈ rows.filter (isOpen place ranges)) : row ∈ rows ∧
    row.hasId place row.id.toNat = true ∧ row.owner = "" ∧ ranges.contains row.id.toNat = true := by
  obtain ⟨known, picked⟩ := List.mem_filter.mp member
  obtain ⟨free, inside⟩ := Bool.and_eq_true_iff.mp picked
  obtain ⟨here, unowned⟩ := PoolRow.isFreeIn_iff.mp free
  exact ⟨known, PoolRow.hasId_iff.mpr ⟨here, (Int.toNat_of_nonneg (fit row known here).1).symm⟩, unowned, inside⟩

theorem mem_openIds : id ∈ (rows.filter (isOpen place ranges)).map (·.id.toNat) ↔
    ∃ row ∈ rows, row.hasId place id = true ∧ row.owner = "" ∧ ranges.contains id = true := by
  rw [List.mem_map]
  constructor
  · rintro ⟨row, member, rfl⟩
    exact ⟨row, of_mem_open fit member⟩
  · rintro ⟨row, known, has, free, inside⟩
    obtain ⟨here, same⟩ := PoolRow.hasId_iff.mp has
    refine ⟨row, List.mem_filter.mpr ⟨known, ?_⟩, by simp [same]⟩
    rw [isOpen, Bool.and_eq_true, PoolRow.isFreeIn_iff, covers, same]
    exact ⟨⟨here, free⟩, inside⟩

end Open

theorem nodup_openIds (distinct : pool.Distinct rows) (admits : pool.Admits scope)
    (fit : ∀ row ∈ rows, row.inScope (pool.scopeOf scope) = true → row.FitsWord) :
    ((rows.filter (isOpen (pool.scopeOf scope) ranges)).map (·.id.toNat)).Nodup := by
  refine List.Nodup.map_on (fun a aMember b bMember same => ?_) ((List.Nodup.of_map _ distinct).filter _)
  obtain ⟨aKnown, aHas, _⟩ := of_mem_open fit aMember
  obtain ⟨bKnown, bHas, _⟩ := of_mem_open fit bMember
  exact distinct.eq_of_hasId admits aKnown bKnown aHas (same ▸ bHas)

theorem map_handOver (distinct : pool.Distinct (front ++ row :: back)) (admits : pool.Admits scope)
    (has : row.hasId (pool.scopeOf scope) id = true) (free : row.owner = "") :
    (front ++ row :: back).map (handOver (pool.scopeOf scope) id owner) = front ++ row.setOwner owner :: back := by
  have others : ∀ other ∈ front ++ back, handOver (pool.scopeOf scope) id owner other = other :=
    fun other member => by simp [handOver, distinct.elsewhere admits has other member]
  rw [List.map_append, List.map_cons, handOver_of_free has free,
    List.map_congr_left fun other member => others other (List.mem_append_left _ member),
    List.map_congr_left (l := back) fun other member => others other (List.mem_append_right _ member), List.map_id', List.map_id']

theorem allocate_of_held {others : List PoolRow} (fit : ∀ row ∈ rows, row.inScope (pool.scopeOf scope) = true → row.FitsWord)
    (held : rows.filter (·.isOwnedIn (pool.scopeOf scope) owner) = row :: others) :
    pool.allocate lock scope ranges owner rows = .ok (row.id.toNat, rows) := by
  have first : rows.find? (·.isOwnedIn (pool.scopeOf scope) owner) = some row := by
    rw [← List.head?_filter, held, List.head?_cons]
  have fits := fit row (List.mem_of_find?_eq_some first) (PoolRow.isOwnedIn_iff.mp (List.find?_some first)).1
  have search : pool.find scope owner rows = .ok (some row.id.toNat) := by
    rw [find, first]
    simp only [word_of_fits fits]
    rfl
  unfold allocate allocateAttempts allocateWithin
  rw [search]
  rfl

/-- Owners without an identifier, and the free rows inside the ranges in the order they will be given. -/
structure Waiting (pool : Pool) (scope : Option String) (ranges : RangeSet) (start : List PoolRow) (owners : List String)
    (offered rows : List PoolRow) : Prop where
  distinct : pool.Distinct rows
  fit : ∀ row ∈ rows, row.inScope (pool.scopeOf scope) = true → row.FitsWord
  unheld : ∀ owner ∈ owners, ∀ row ∈ rows, row.isOwnedIn (pool.scopeOf scope) owner = false
  offers : rows.filter (isOpen (pool.scopeOf scope) ranges) = offered.reverse
  kept : ∀ row ∈ start, isOpen (pool.scopeOf scope) ranges row = false → row ∈ rows

namespace Waiting

theorem last (waiting : Waiting pool scope ranges start owners (row :: offered) rows) :
    ∃ front back, rows = front ++ row :: back ∧ isOpen (pool.scopeOf scope) ranges row = true ∧
      front.filter (isOpen (pool.scopeOf scope) ranges) = offered.reverse ∧
      back.filter (isOpen (pool.scopeOf scope) ranges) = [] := by
  have offers := waiting.offers
  rw [List.reverse_cons, List.filter_eq_append_iff] at offers
  obtain ⟨front, rest, rfl, before, last⟩ := offers
  obtain ⟨passed, back, rfl, closed, picked, after⟩ := List.filter_eq_cons_iff.mp last
  refine ⟨front ++ passed, back, (List.append_assoc _ _ _).symm, picked, ?_, after⟩
  rw [List.filter_append, before, List.filter_eq_nil_iff.mpr closed, List.append_nil]

theorem allocate (waiting : Waiting pool scope ranges start (owner :: owners) (row :: offered) (front ++ row :: back))
    (own : pool.isScoped = scope.isSome) (picked : isOpen (pool.scopeOf scope) ranges row = true) :
    pool.allocate .free scope ranges owner (front ++ row :: back) =
      .ok (row.id.toNat, front ++ row.setOwner owner :: back) := by
  have admits : pool.Admits scope := fun given => own ▸ given
  have plain : (if pool.isScoped then owner else scope.getD owner) = owner := by cases scope <;> simp_all
  obtain ⟨here, free⟩ := PoolRow.isFreeIn_iff.mp (Bool.and_eq_true_iff.mp picked).1
  have middle : row ∈ front ++ row :: back := List.mem_append_right _ (.head _)
  have has : row.hasId (pool.scopeOf scope) row.id.toNat = true :=
    PoolRow.hasId_iff.mpr ⟨here, (Int.toNat_of_nonneg (waiting.fit row middle here).1).symm⟩
  have unheld := waiting.unheld owner (.head _)
  have chosen : pool.lastFree scope ranges (front ++ row :: back) = .ok (some row.id.toNat) := by
    rw [lastFree_eq waiting.fit, waiting.offers, List.reverse_cons, List.getLast?_concat]
    rfl
  have taken := take_of_unheld waiting.distinct admits plain unheld middle has free
  rw [map_handOver waiting.distinct admits has free] at taken
  refine Result.bind_eq_ok.mpr ⟨none, find_of_not_owned unheld, ?_⟩
  refine Result.bind_eq_ok.mpr ⟨some row.id.toNat, chosen, ?_⟩
  refine Result.bind_eq_ok.mpr ⟨(), rfl, ?_⟩
  dsimp only
  rw [taken]
  rfl

theorem handed (waiting : Waiting pool scope ranges start (owner :: owners) (row :: offered) (front ++ row :: back))
    (different : owner ∉ owners) (named : owner ≠ "") (picked : isOpen (pool.scopeOf scope) ranges row = true)
    (before : front.filter (isOpen (pool.scopeOf scope) ranges) = offered.reverse)
    (after : back.filter (isOpen (pool.scopeOf scope) ranges) = []) :
    Waiting pool scope ranges start owners offered (front ++ row.setOwner owner :: back) := by
  have closed : isOpen (pool.scopeOf scope) ranges (row.setOwner owner) = false := by
    simp [isOpen, PoolRow.isFreeIn, PoolRow.isFree, PoolRow.setOwner, named]
  have cases {other : PoolRow} (member : other ∈ front ++ row.setOwner owner :: back) :
      other ∈ front ++ row :: back ∨ other = row.setOwner owner := by
    simp only [List.mem_append, List.mem_cons] at member ⊢
    tauto
  refine ⟨?_, fun other member here => ?_, fun name member other among => ?_, ?_, fun other known shut => ?_⟩
  · simpa [Distinct] using waiting.distinct
  · rcases cases member with known | rfl
    · exact waiting.fit other known here
    · exact waiting.fit row (List.mem_append_right _ (.head _)) (by simpa using here)
  · rcases cases among with known | rfl
    · exact waiting.unheld name (.tail _ member) other known
    · rw [← Bool.not_eq_true, PoolRow.isOwnedIn_iff]
      rintro ⟨_, rfl⟩
      exact different member
  · rw [List.filter_append, List.filter_cons_of_neg (by simp [closed]), before, after, List.append_nil]
  · have stays := waiting.kept other known shut
    simp only [List.mem_append, List.mem_cons] at stays ⊢
    rcases stays with known | rfl | known
    · exact .inl known
    · rw [picked] at shut
      cases shut
    · exact .inr (.inr known)

theorem serve (waiting : Waiting pool scope ranges start (owner :: owners) (row :: offered) rows)
    (own : pool.isScoped = scope.isSome) (different : owner ∉ owners) (named : owner ≠ "") :
    ∃ front back, rows = front ++ row :: back ∧ isOpen (pool.scopeOf scope) ranges row = true ∧
      pool.allocate .free scope ranges owner rows = .ok (row.id.toNat, front ++ row.setOwner owner :: back) ∧
      Waiting pool scope ranges start owners offered (front ++ row.setOwner owner :: back) := by
  obtain ⟨front, back, rfl, picked, before, after⟩ := waiting.last
  exact ⟨front, back, rfl, picked, waiting.allocate own picked, waiting.handed different named picked before after⟩

theorem refuse (waiting : Waiting pool scope ranges start (owner :: owners) [] rows) :
    pool.allocate lock scope ranges owner rows = .error (.exhaustedIn pool.name scope) ∧
      Waiting pool scope ranges start owners [] rows := by
  refine ⟨?_, waiting.distinct, waiting.fit, fun other member => waiting.unheld other (.tail _ member), waiting.offers,
    waiting.kept⟩
  refine Result.bind_eq_error.mpr (.inr ⟨none, find_of_not_owned (waiting.unheld owner (.head _)), ?_⟩)
  refine Result.bind_eq_error.mpr (.inr ⟨none, ?_, rfl⟩)
  rw [lastFree_eq waiting.fit, waiting.offers]
  rfl

end Waiting

def asking (scope : Option String) (ranges : RangeSet) (owners : List String) : List Operation :=
  owners.map fun owner => ⟨.free, scope, ranges, .allocate owner⟩

theorem after_of_allocate (done : pool.allocate lock scope ranges owner rows = .ok (id, start)) :
    pool.after rows ⟨lock, scope, ranges, .allocate owner⟩ = start := by
  simp only [after, perform, done]
  rfl

theorem after_of_refused {e : StoreError} (failed : pool.allocate lock scope ranges owner rows = .error e) :
    pool.after rows ⟨lock, scope, ranges, .allocate owner⟩ = rows := by
  simp only [after, perform, failed]
  rfl

theorem run_asking {i : Nat} (turn : owners[i]? = some owner) :
    pool.run (asking scope ranges (owners.take (i + 1))) rows =
      pool.after (pool.run (asking scope ranges (owners.take i)) rows) ⟨.free, scope, ranges, .allocate owner⟩ := by
  rw [List.take_add_one, turn, asking, List.map_append, run, List.foldl_append]
  rfl

theorem drop_of_turn {α : Type} {xs : List α} {x : α} {i : Nat} (turn : xs[i]? = some x) :
    xs.drop i = x :: xs.drop (i + 1) := by
  obtain ⟨inside, rfl⟩ := List.getElem?_eq_some_iff.mp turn
  exact List.drop_eq_getElem_cons inside

theorem waiting_run (waiting : Waiting pool scope ranges start owners offered rows) (own : pool.isScoped = scope.isSome)
    (different : owners.Nodup) (named : ∀ owner ∈ owners, owner ≠ "") {i : Nat} (inside : i ≤ owners.length) :
    Waiting pool scope ranges start (owners.drop i) (offered.drop i)
      (pool.run (asking scope ranges (owners.take i)) rows) := by
  induction i with
  | zero => exact waiting
  | succ i ih =>
      have turn := List.getElem?_eq_getElem (Nat.lt_of_succ_le inside)
      have now := ih (Nat.le_of_succ_le inside)
      rw [drop_of_turn turn] at now
      rw [run_asking turn]
      cases next : offered[i]? with
      | none =>
          have past := List.getElem?_eq_none_iff.mp next
          rw [List.drop_of_length_le past] at now
          obtain ⟨refused, left⟩ := now.refuse
          rw [List.drop_of_length_le (Nat.le_succ_of_le past), after_of_refused refused]
          exact left
      | some row =>
          rw [drop_of_turn next] at now
          have once := (List.nodup_cons.mp (drop_of_turn turn ▸ different.sublist (List.drop_sublist i owners))).1
          obtain ⟨front, back, same, _, done, left⟩ := now.serve own once (named _ (List.getElem_mem _))
          rw [after_of_allocate done]
          exact left

/-- Owners without an identifier ask one after the other. Each of the free rows inside the ranges goes to
one of them, and nothing else changes; when there is none left they are refused. Whoever holds an identifier
meanwhile is given it again. -/
theorem each_handed_once (distinct : pool.Distinct rows) (own : pool.isScoped = scope.isSome)
    (fit : ∀ row ∈ rows, row.inScope (pool.scopeOf scope) = true → row.FitsWord)
    (different : owners.Nodup) (named : ∀ owner ∈ owners, owner ≠ "")
    (unheld : ∀ owner ∈ owners, ∀ row ∈ rows, row.isOwnedIn (pool.scopeOf scope) owner = false) :
    let place := pool.scopeOf scope
    let state (i : Nat) := pool.run (asking scope ranges (owners.take i)) rows
    ∃ ids : List Nat, ids.Nodup ∧
      ids.length = rows.countP (fun row => row.isFreeIn place && covers ranges row) ∧
      (∀ id, id ∈ ids ↔ ∃ row ∈ rows, row.hasId place id = true ∧ row.owner = "" ∧ ranges.contains id = true) ∧
      (∀ i owner id, owners[i]? = some owner → ids[i]? = some id →
        pool.allocate .free scope ranges owner (state i) = .ok (id, state (i + 1)) ∧
        ∃ front row back, state i = front ++ row :: back ∧ row ∈ rows ∧ row.hasId place id = true ∧ row.owner = "" ∧
          state (i + 1) = front ++ row.setOwner owner :: back) ∧
      (∀ i owner, owners[i]? = some owner → ids.length ≤ i →
        pool.allocate .free scope ranges owner (state i) = .error (.exhausted pool.name (scope.getD "global")) ∧
        state (i + 1) = state i) ∧
      ∀ i ≤ owners.length,
        (∀ row ∈ rows, row.isFreeIn place = true → covers ranges row = false → row ∈ state i) ∧
        ∀ lock owner row others, (state i).filter (·.isOwnedIn place owner) = row :: others →
          ∃ id : Nat, row.id = id ∧ pool.allocate lock scope ranges owner (state i) = .ok (id, state i) := by
  intro place state
  have admits : pool.Admits scope := fun given => own ▸ given
  have waiting : Waiting pool scope ranges rows owners (rows.filter (isOpen place ranges)).reverse rows :=
    ⟨distinct, fit, unheld, (List.reverse_reverse _).symm, fun row member _ => member⟩
  have reached {i : Nat} (inside : i ≤ owners.length) := waiting_run waiting own different named inside
  refine ⟨(rows.filter (isOpen place ranges)).reverse.map (·.id.toNat), ?_, ?_, fun id => ?_, ?_, ?_, ?_⟩
  · rw [List.map_reverse, List.nodup_reverse]
    exact nodup_openIds distinct admits fit
  · rw [List.length_map, List.length_reverse, List.countP_eq_length_filter]
    rfl
  · rw [List.map_reverse, List.mem_reverse]
    exact mem_openIds fit
  · intro i owner id turn next
    rw [List.getElem?_map, Option.map_eq_some_iff] at next
    obtain ⟨row, next, rfl⟩ := next
    have now := reached (Nat.le_of_lt (List.getElem?_eq_some_iff.mp turn).1)
    rw [drop_of_turn turn, drop_of_turn next] at now
    have once := (List.nodup_cons.mp (drop_of_turn turn ▸ different.sublist (List.drop_sublist i owners))).1
    obtain ⟨front, back, same, picked, done, _⟩ := now.serve own once (named owner (List.mem_of_getElem? turn))
    have onward : state (i + 1) = front ++ row.setOwner owner :: back := by
      simp only [state]
      rw [run_asking turn, after_of_allocate done]
    obtain ⟨known, has, free, _⟩ := of_mem_open fit (List.mem_reverse.mp (List.mem_of_getElem? next))
    exact ⟨onward ▸ done, front, row, back, same, known, has, free, onward⟩
  · intro i owner turn past
    have now := reached (Nat.le_of_lt (List.getElem?_eq_some_iff.mp turn).1)
    rw [List.length_map] at past
    rw [drop_of_turn turn, List.drop_of_length_le past] at now
    obtain ⟨refused, _⟩ := @Waiting.refuse _ _ _ _ _ _ _ .free now
    refine ⟨refused, ?_⟩
    simp only [state]
    rw [run_asking turn, after_of_refused refused]
  · intro i inside
    have now := reached inside
    refine ⟨fun row known free outside => now.kept row known ?_, fun lock owner row others held => ?_⟩
    · rw [isOpen, outside, Bool.and_false]
    · have among : row ∈ (state i).filter (·.isOwnedIn place owner) := held ▸ .head _
      obtain ⟨known, owned⟩ := List.mem_filter.mp among
      have fits := now.fit row known (PoolRow.isOwnedIn_iff.mp owned).1
      exact ⟨row.id.toNat, (Int.toNat_of_nonneg fits.1).symm, allocate_of_held now.fit held⟩

theorem each_handed_once_until_exhausted :
    let leaf := some "10.0.0.1"
    let ranges : RangeSet := { ranges := [⟨100, 110, by decide⟩] }
    let rows : List PoolRow := [⟨leaf, 100, ""⟩, ⟨some "10.0.0.2", 100, ""⟩, ⟨leaf, 101, "edge"⟩, ⟨leaf, 102, ""⟩, ⟨leaf, 300, ""⟩]
    let state (i : Nat) := Pool.borderVlan.run (asking leaf ranges (["a", "b", "c"].take i)) rows
    state 2 = [⟨leaf, 100, "b"⟩, ⟨some "10.0.0.2", 100, ""⟩, ⟨leaf, 101, "edge"⟩, ⟨leaf, 102, "a"⟩, ⟨leaf, 300, ""⟩] ∧
      Pool.borderVlan.allocate .free leaf ranges "c" (state 2) = .error (.exhausted "border_vlan" "10.0.0.1") ∧
      state 3 = state 2 ∧ ∃ id : Nat, 101 = (id : Int) ∧
        Pool.borderVlan.allocate .held leaf ranges "edge" (state 3) = .ok (id, state 3) := by
  intro leaf ranges rows state
  obtain ⟨ids, _, count, _, _, refused, settled⟩ := @each_handed_once .borderVlan leaf ranges rows
    ["a", "b", "c"] (by decide) rfl (by decide) (by decide) (by decide) (by decide)
  have two : ids.length = 2 := count.trans (by decide)
  obtain ⟨failed, same⟩ := refused 2 "c" rfl (Nat.le_of_eq two)
  exact ⟨by decide, failed, same, (settled 3 (Nat.le_refl 3)).2 .held "edge" ⟨leaf, 101, "edge"⟩ [] (by decide)⟩

end OverlayFabric.Pool
