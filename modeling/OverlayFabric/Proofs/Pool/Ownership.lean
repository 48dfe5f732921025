import OverlayFabric.Proofs.Pool.Run

namespace OverlayFabric.Pool

def Holds (pool : Pool) (rows : List PoolRow) (scope : Option String) (id : Int) (owner : String) : Prop :=
  ∃ row ∈ rows, pool.key row = (pool.scopeOf scope, id) ∧ row.owner = owner

def Frees (pool : Pool) (op : Operation) (scope : Option String) (id : Int) (owner : String) : Prop :=
  pool.scopeOf op.scope = pool.scopeOf scope ∧
    (op.action = .release owner ∨ ∃ word : Nat, (word : Int) = id ∧ op.action = .releaseId word)

/-- The operation asks for an identifier for the owner and is given this one. -/
def Obtains (pool : Pool) (op : Operation) (rows : List PoolRow) (id : Nat) (owner : String) : Prop :=
  (op.action = .allocate owner ∨ op.action = .reserve id owner) ∧
    ∃ left, pool.perform op rows = .ok (some id, left)

variable {pool : Pool} {op : Operation} {ops : List Operation} {rows : List PoolRow}
  {scope : Option String} {owner other : String}

theorem Holds.unique {id : Int} (distinct : pool.Distinct rows) (held : pool.Holds rows scope id owner)
    (also : pool.Holds rows scope id other) : owner = other := by
  obtain ⟨row, member, key, rfl⟩ := held
  obtain ⟨second, known, same, rfl⟩ := also
  rw [distinct.eq_of_key member known (key.trans same.symm)]

theorem holds_of_hasId {id : Nat} {row : PoolRow} (admits : pool.Admits scope) (member : row ∈ rows)
    (has : row.hasId (pool.scopeOf scope) id = true) : pool.Holds rows scope id row.owner :=
  ⟨row, member, (hasId_iff_key admits).mp has, rfl⟩

theorem holds_of_effect {id : Int} {left : List PoolRow} (distinct : pool.Distinct rows)
    (admits : pool.Admits op.scope) (effect : Effect pool rows op left) (named : owner ≠ "")
    (held : pool.Holds rows scope id owner) (kept : ¬ pool.Frees op scope id owner) :
    pool.Holds left scope id owner := by
  obtain ⟨row, member, key, rfl⟩ := held
  cases effect with
  | none => exact ⟨row, member, key, rfl⟩
  | synced =>
      refine ⟨row, mem_place.mpr (Or.inl (List.mem_filter.mpr ⟨member, ?_⟩)), key, rfl⟩
      simp [PoolRow.isFreeIn, PoolRow.isFree, named]
  | handed =>
      refine ⟨row, List.mem_map.mpr ⟨row, member, handOver_of_owned named⟩, key, rfl⟩
  | added => exact ⟨row, mem_place.mpr (Or.inl member), key, rfl⟩
  | freed asked =>
      refine ⟨row, List.mem_filterMap.mpr ⟨row, member, freed_of_other fun word given => ?_⟩, key, rfl⟩
      -- A row with an identifier given back would make the operation one that frees it.
      by_contra has
      rw [Bool.not_eq_false] at has
      have place := ((hasId_iff_key admits).mp has).symm.trans key
      refine kept ⟨congrArg Prod.fst place, ?_⟩
      rcases asked word given with action | ⟨holder, action, second, known, also, rfl⟩
      · exact Or.inr ⟨word, congrArg Prod.snd place, action⟩
      · rw [distinct.eq_of_hasId admits known member also has] at action
        exact Or.inl action

theorem Holds.after {id : Int} (distinct : pool.Distinct rows) (admits : pool.Admits op.scope)
    (named : owner ≠ "") (held : pool.Holds rows scope id owner) (kept : ¬ pool.Frees op scope id owner) :
    pool.Holds (pool.after rows op) scope id owner :=
  holds_of_effect distinct admits (effect_after distinct admits) named held kept

theorem Holds.run {id : Int} (distinct : pool.Distinct rows) (admits : ∀ op ∈ ops, pool.Admits op.scope)
    (named : owner ≠ "") (held : pool.Holds rows scope id owner)
    (kept : ∀ op ∈ ops, ¬ pool.Frees op scope id owner) : pool.Holds (pool.run ops rows) scope id owner := by
  induction ops generalizing rows with
  | nil => exact held
  | cons op rest ih =>
      have here := admits op (.head _)
      exact ih (distinct_of_effect distinct here (effect_after distinct here))
        (fun op member => admits op (.tail _ member))
        (held.after distinct here named (kept op (.head _)))
        fun op member => kept op (.tail _ member)

theorem Obtains.holds {id : Nat} (distinct : pool.Distinct rows) (admits : pool.Admits op.scope)
    (obtains : pool.Obtains op rows id owner) : pool.Holds (pool.after rows op) op.scope id owner := by
  obtain ⟨asked, left, outcome⟩ := obtains
  have handed {row : PoolRow} (member : row ∈ rows)
      (has : row.hasId (pool.scopeOf op.scope) id = true) (free : row.owner = "") :
      pool.Holds (rows.map (handOver (pool.scopeOf op.scope) id owner)) op.scope id owner :=
    ⟨row.setOwner owner, List.mem_map.mpr ⟨row, member, handOver_of_free has free⟩,
      (hasId_iff_key admits).mp has, rfl⟩
  simp only [after, outcome]
  rcases asked with action | action
  · -- An allocation answers with a row its owner has, or with the last free row.
    simp only [perform, action] at outcome
    obtain ⟨⟨found, left⟩, done, same⟩ := Result.map_eq_ok.mp outcome
    cases same
    rcases allocateWithin_eq_ok distinct admits done with
      ⟨rfl, row, member, has, rfl⟩ | ⟨rfl, row, member, has, free⟩
    · exact holds_of_hasId admits member has
    · exact handed member has free
  · simp only [perform, action] at outcome
    obtain ⟨left, done, same⟩ := Result.map_eq_ok.mp outcome
    cases same
    rcases reserve_eq_ok done with ⟨_, rfl⟩ | ⟨rfl, row, member, has, rfl⟩ | ⟨rfl, row, member, has, free⟩
    · exact ⟨_, mem_place.mpr (Or.inr (.head _)), key_ofScope, rfl⟩
    · exact holds_of_hasId admits member has
    · exact handed member has free

theorem Obtains.before {id : Nat} (distinct : pool.Distinct rows) (admits : pool.Admits op.scope)
    (obtains : pool.Obtains op rows id owner) (held : pool.Holds rows op.scope id other) :
    other = owner ∨ other = "" := by
  by_cases named : other = ""
  · exact Or.inr named
  · left
    refine (held.after distinct admits named ?_).unique
      (distinct_of_effect distinct admits (effect_after distinct admits)) (obtains.holds distinct admits)
    rintro ⟨_, action | ⟨_, _, action⟩⟩ <;> rcases obtains.1 with asked | asked <;>
      · rw [action] at asked
        cases asked

theorem reserve_of_held {id : Nat} (distinct : pool.Distinct rows) (admits : pool.Admits scope)
    (named : owner ≠ "") (differ : other ≠ owner) (held : pool.Holds rows scope id owner) :
    pool.reserve .free scope id other rows =
      .error (.conflict pool.name s!"id {id} is already owned by {owner}") := by
  obtain ⟨row, member, key, rfl⟩ := held
  have has := (hasId_iff_key admits).mpr key
  have first : rows.find? (·.hasId (pool.scopeOf scope) id) = some row := by
    cases search : rows.find? (·.hasId (pool.scopeOf scope) id) with
    | none => exact absurd has (by simpa using List.find?_eq_none.mp search row member)
    | some found =>
        rw [distinct.eq_of_hasId admits (List.mem_of_find?_eq_some search) member
          (List.find?_some search) has]
  unfold reserve
  simp only [Lock.claim_free, first, PoolRow.isFree]
  simp [named, differ.symm]
  rfl

theorem after_reserve_of_held {id : Nat} (distinct : pool.Distinct rows) (admits : pool.Admits scope)
    (named : owner ≠ "") (differ : other ≠ owner) (held : pool.Holds rows scope id owner) (lock : Lock)
    (ranges : RangeSet) : pool.after rows ⟨lock, scope, ranges, .reserve id other⟩ = rows := by
  unfold after perform
  cases lock with
  | free =>
      simp only [reserve_of_held distinct admits named differ held]
      rfl
  | held => rfl

/-- What is owned stays owned until given back, an identifier goes from one owner to another only
when it was given back in between, and until then nobody else can reserve it. -/
theorem ownership_exclusive {start : List PoolRow} (distinct : pool.Distinct start)
    (earlier between : List Operation) (admits : ∀ op ∈ earlier ++ between, pool.Admits op.scope) :
    (∀ scope id owner, owner ≠ "" → pool.Holds (pool.run earlier start) scope id owner →
      (∀ op ∈ between, ¬ pool.Frees op scope id owner) →
      pool.Holds (pool.run (earlier ++ between) start) scope id owner) ∧
    (∀ (first last : Operation) (id : Nat) (owner other : String), pool.Admits first.scope →
      pool.Admits last.scope → pool.scopeOf last.scope = pool.scopeOf first.scope →
      owner ≠ "" → other ≠ owner → pool.Obtains first (pool.run earlier start) id owner →
      pool.Obtains last (pool.run (earlier ++ first :: between) start) id other →
      ∃ op ∈ between, pool.Frees op first.scope id owner) ∧
    (∀ (scope : Option String) (id : Nat) (owner other : String), pool.Admits scope →
      owner ≠ "" → other ≠ owner → pool.Holds (pool.run earlier start) scope id owner →
      pool.reserve .free scope id other (pool.run earlier start) =
          .error (.conflict pool.name s!"id {id} is already owned by {owner}") ∧
        ∀ lock ranges, pool.after (pool.run earlier start) ⟨lock, scope, ranges, .reserve id other⟩ =
          pool.run earlier start) := by
  have reached : pool.Distinct (pool.run earlier start) :=
    distinct.run fun op member => admits op (List.mem_append_left _ member)
  have later : ∀ op ∈ between, pool.Admits op.scope :=
    fun op member => admits op (List.mem_append_right _ member)
  refine ⟨?_, ?_, ?_⟩
  · intro scope id owner named held kept
    rw [run, List.foldl_append]
    exact held.run reached later named kept
  · intro first last id owner other here there same named differ obtained again
    by_contra kept
    push Not at kept
    have left := distinct_of_effect reached here (effect_after reached here)
    have held := (obtained.holds reached here).run left later named kept
    rw [run, List.foldl_append, List.foldl_cons] at again
    obtain ⟨row, member, key, owned⟩ := held
    rcases again.before (left.run later) there ⟨row, member, key.trans (by rw [same]), owned⟩ with
      taken | free
    · exact differ taken.symm
    · exact named free
  · intro scope id owner other here named differ held
    exact ⟨reserve_of_held reached here named differ held, after_reserve_of_held reached here named differ held⟩

theorem segment_changes_hands :
    let seven : RangeSet := { ranges := [⟨7, 7, Nat.le_refl 7⟩] }
    let start : List PoolRow := [⟨none, 7, ""⟩]
    let claim : Operation := ⟨.free, none, seven, .allocate "a"⟩
    let between : List Operation := [⟨.free, none, seven, .reserve 7 "b"⟩, ⟨.free, none, seven, .release "a"⟩]
    let again : Operation := ⟨.free, none, seven, .reserve 7 "b"⟩
    Pool.l2Segment.Obtains claim start 7 "a" ∧
      Pool.l2Segment.Obtains again (Pool.l2Segment.run (claim :: between) start) 7 "b" ∧
      ∃ op ∈ between, Pool.l2Segment.Frees op none 7 "a" := by
  intro seven start claim between again
  have first : Pool.l2Segment.Obtains claim start 7 "a" := ⟨Or.inl rfl, _, rfl⟩
  have last : Pool.l2Segment.Obtains again (Pool.l2Segment.run (claim :: between) start) 7 "b" :=
    ⟨Or.inr rfl, _, rfl⟩
  have admits (op : Operation) : Pool.l2Segment.Admits op.scope := fun isScoped => by cases isScoped
  have distinct : Pool.l2Segment.Distinct start := by decide
  exact ⟨first, last, (ownership_exclusive distinct [] between fun op _ => admits op).2.1 claim again 7
    "a" "b" (admits claim) (admits again) rfl (by decide) (by decide) first last⟩

end OverlayFabric.Pool
