import OverlayFabric.Proofs.Binding.Legible
import OverlayFabric.Proofs.Store.Stranded

/-!
Why the allocators can fail on sound tables: the database is busy, or the pool is exhausted. No identifier
is out of bounds, and the row that an allocation picks can always be claimed; only asking for one identifier
by its number can meet another owner.
-/

namespace OverlayFabric

/-- Nothing stored is corrupt, and identifiers are in conflict only where they may be contested. -/
def StoreError.Sane (contested : Prop) : StoreError → Prop
  | .corrupt _ _ => False
  | .conflict _ _ => contested
  | _ => True

def Result.Sane {α : Type} (contested : Prop) (result : Except StoreError α) : Prop :=
  ∀ e, result = .error e → e.Sane contested

variable {contested : Prop} {α β : Type}

namespace Result

theorem sane_ok {value : α} : Sane contested (.ok value : Except StoreError α) := fun _ failed => nomatch failed

theorem Sane.bind {result : Except StoreError α} {next : α → Except StoreError β} (sane : Sane contested result)
    (onward : ∀ value, result = .ok value → Sane contested (next value)) : Sane contested (result >>= next) := by
  intro e failed
  rcases bind_eq_error.mp failed with first | ⟨value, done, later⟩
  · exact sane e first
  · exact onward value done e later

theorem Sane.map {result : Except StoreError α} (sane : Sane contested result) (f : α → β) :
    Sane contested (result.map f) := by
  intro e failed
  cases result with
  | error other =>
      cases failed
      exact sane e rfl
  | ok value => cases failed

theorem sane_of_ok {result : Except StoreError α} (done : ∃ value, result = .ok value) : Sane contested result := by
  obtain ⟨value, rfl⟩ := done
  exact sane_ok

theorem sane_claim {lock : Lock} {operation : String} : Sane contested (lock.claim operation) := by
  intro e refused
  cases lock <;> cases refused
  trivial

end Result

namespace Pool

variable {pool : Pool} {rows left : List PoolRow} {row : PoolRow} {scope : Option String} {ranges : RangeSet}
  {owner : String} {lock : Lock} {id : Nat}

theorem Sound.names_of_hasId (sound : pool.Sound rows) (member : row ∈ rows) {place : Option String}
    (has : row.hasId place id = true) : pool.Names id := by
  obtain ⟨named, same, valid⟩ := sound.named row member
  rw [(PoolRow.hasId_iff.mp has).2] at same
  exact Int.ofNat.inj same ▸ valid

theorem Sound.find_ok (sound : pool.Sound rows) :
    ∃ found, pool.find scope owner rows = .ok found ∧ ∀ id, found = some id → pool.Names id := by
  cases done : pool.find scope owner rows with
  | ok found =>
      refine ⟨found, rfl, ?_⟩
      rintro id rfl
      obtain ⟨row, member, has, _⟩ := find_eq_some done
      exact sound.names_of_hasId member has
  | error e =>
      unfold Pool.find at done
      split at done
      · next row first =>
          rw [sound.word_eq (List.mem_of_find?_eq_some first)] at done
          cases done
      · cases done

theorem Sound.lastFree_ok (sound : pool.Sound rows) : ∃ candidate, pool.lastFree scope ranges rows = .ok candidate := by
  have each (free : List PoolRow) (among : ∀ row ∈ free, row ∈ rows) (first : Option Nat) :
      ∃ candidate, free.foldlM (fun candidate row => do
        let id ← pool.word row.id
        return if ranges.contains id then some id else candidate) first = .ok candidate := by
    induction free generalizing first with
    | nil => exact ⟨first, rfl⟩
    | cons row rest ih =>
        rw [List.foldlM_cons, sound.word_eq (among row (.head _))]
        exact ih (fun other member => among other (.tail _ member)) _
  exact each _ (fun row member => List.mem_of_mem_filter member) none

theorem take_of_unheld (distinct : pool.Distinct rows) (admits : pool.Admits scope)
    (plain : (if pool.isScoped then owner else scope.getD owner) = owner)
    (unheld : ∀ row ∈ rows, row.isOwnedIn (pool.scopeOf scope) owner = false) (member : row ∈ rows)
    (has : row.hasId (pool.scopeOf scope) id = true) (free : row.owner = "") :
    pool.take scope id owner rows = (rows.map (handOver (pool.scopeOf scope) id owner), 1) := by
  refine (take_cases owner distinct admits member has free).resolve_left fun blocked => ?_
  have nobody : ¬ rows.any (·.isOwnedIn (pool.scopeOf scope) owner) = true := by simpa using unheld
  unfold take at blocked
  simp only [plain, if_neg nobody] at blocked
  have none := List.countP_eq_zero.mp (Prod.mk.inj blocked).2 row member
  simp [has, PoolRow.isFree, free] at none

theorem Sound.sane_allocate (sound : pool.Sound rows) (admits : pool.Admits scope)
    (plain : (if pool.isScoped then owner else scope.getD owner) = owner) :
    Result.Sane contested (pool.allocate lock scope ranges owner rows) := by
  unfold allocate allocateAttempts allocateWithin
  refine Result.Sane.bind (fun e failed => ?_) fun found unheld => ?_
  · obtain ⟨found, done, _⟩ := @Sound.find_ok _ _ scope owner sound
    cases done.symm.trans failed
  · cases found with
    | some held => exact Result.sane_ok
    | none =>
        refine Result.Sane.bind (fun e failed => ?_) fun candidate chosen => ?_
        · obtain ⟨candidate, done⟩ := @Sound.lastFree_ok _ _ scope ranges sound
          cases done.symm.trans failed
        · cases candidate with
          | none => exact fun e failed => by cases failed; trivial
          | some candidate =>
              obtain ⟨row, member, has, free⟩ := lastFree_eq_some chosen
              refine Result.sane_claim.bind fun _ _ => ?_
              rw [take_of_unheld sound.distinct admits plain (owned_of_find unheld) member has free]
              exact Result.sane_ok

theorem Sound.names_of_allocate (sound : pool.Sound rows) (admits : pool.Admits scope)
    (done : pool.allocate lock scope ranges owner rows = .ok (id, left)) : pool.Names id := by
  rcases allocateWithin_eq_ok sound.distinct admits done with ⟨_, row, member, has, _⟩ | ⟨_, row, member, has, _⟩
  · exact sound.names_of_hasId member has
  · exact sound.names_of_hasId member has

theorem Sound.sane_sync (sound : pool.Sound rows) : Result.Sane contested (pool.sync lock scope ranges rows) := by
  unfold sync
  refine Result.sane_claim.bind fun _ _ => Result.Sane.bind (fun e failed => ?_) fun present _ => ?_
  · obtain ⟨present, read⟩ := Result.mapM_ok fun row (member : row ∈ rows.filter (·.inScope (pool.scopeOf scope))) =>
      ⟨_, sound.word_eq (List.mem_of_mem_filter member)⟩
    cases read.symm.trans failed
  · dsimp only
    split
    · exact fun e failed => by cases failed; trivial
    · exact Result.sane_ok

theorem sane_releaseId : Result.Sane contested (pool.releaseId lock scope ranges id rows) := by
  unfold releaseId
  refine Result.sane_claim.bind fun _ _ => ?_
  split <;> exact Result.sane_ok

theorem sane_reserve (allowed : contested) : Result.Sane contested (pool.reserve lock scope id owner rows) := by
  unfold reserve
  refine Result.sane_claim.bind fun _ _ => ?_
  dsimp only
  split
  · split
    · exact fun e failed => by cases failed; trivial
    · exact Result.sane_ok
  · split
    · exact Result.sane_ok
    · split
      · exact Result.sane_ok
      · exact fun e failed => by cases failed; exact allowed

theorem Sound.release_cases (sound : pool.Sound rows) :
    (∃ e, pool.release lock scope ranges owner rows = .error e ∧ e.Sane contested) ∨
      ∃ held left, pool.release lock scope ranges owner rows = .ok (held, left) ∧ ∀ id ∈ held, pool.Names id := by
  cases lock with
  | held => exact Or.inl ⟨_, rfl, trivial⟩
  | free => exact Or.inr sound.release_eq_ok

end Pool

namespace StoreM

variable {store : Store} {pool : Pool}

theorem fst_onPool {f : List PoolRow → Except StoreError (α × List PoolRow)} :
    ((StoreM.onPool pool f).run store).1 = (f (store.rows pool)).map Prod.fst := by
  rw [run_onPool]
  cases f (store.rows pool) <;> rfl

theorem fst_bind_ofExcept {action : StoreM α} {check : α → Except StoreError β} :
    ((action >>= fun value => .ofExcept (check value)).run store).1 = (action.run store).1 >>= check := by
  rw [run_bind]
  rcases action.run store with ⟨error | value, after⟩ <;> rfl

end StoreM

namespace SegmentPool

variable {segments : SegmentPool} {store : Store} {lock : Lock} {owner : String} {id : SegmentId}

theorem segment_ok {raw : Nat} (named : segments.pool.Names raw) : ∃ segment, segments.segment raw = .ok segment := by
  obtain ⟨segment, same⟩ := named.segment
  exact ⟨segment, segment_eq_ok.mpr same⟩

section Sound

variable (sound : segments.pool.Sound (store.rows segments.pool))

include sound

theorem sane_sync : Result.Sane contested ((segments.sync lock).run store).1 := by
  rw [sync, StoreM.fst_onPool]
  exact sound.sane_sync.map _

theorem sane_allocate (unscoped : segments.pool.isScoped = false) :
    Result.Sane contested ((segments.allocate lock owner).run store).1 := by
  have admits : segments.pool.Admits none := Pool.admits_of_unscoped unscoped
  rw [allocate, StoreM.fst_bind_ofExcept, StoreM.fst_onPool]
  refine ((sound.sane_allocate admits (by simp [unscoped])).map _).bind fun raw done => ?_
  obtain ⟨⟨raw, left⟩, given, rfl⟩ := Result.map_eq_ok.mp done
  exact Result.sane_of_ok (segment_ok (sound.names_of_allocate admits given))

theorem sane_release : Result.Sane contested ((segments.release lock owner).run store).1 := by
  rw [release, StoreM.fst_bind_ofExcept, StoreM.fst_onPool]
  rcases @Pool.Sound.release_cases contested _ _ none segments.ranges owner lock sound with
    ⟨e, refused, sane⟩ | ⟨held, left, done, named⟩
  · rw [refused]
    exact fun e failed => by cases failed; exact sane
  · rw [done]
    exact Result.sane_of_ok (Result.mapM_head?_eq_ok fun raw given => segment_ok (named raw given))

end Sound

theorem sane_releaseId : Result.Sane contested ((segments.releaseId lock id).run store).1 := by
  rw [releaseId, StoreM.fst_onPool]
  exact Pool.sane_releaseId.map _

theorem sane_reserve (allowed : contested) : Result.Sane contested ((segments.reserve lock id owner).run store).1 := by
  rw [reserve, StoreM.fst_onPool]
  exact ((Pool.sane_reserve allowed).map _).map _

end SegmentPool

namespace BorderPool

variable {border : BorderPool} {store : Store} {lock : Lock} {switch owner : String}

theorem vlan_ok {raw : Nat} (named : Pool.borderVlan.Names raw) : ∃ found, vlan raw = .ok found := by
  obtain ⟨found, same⟩ := named.vlan
  exact ⟨found, vlan_eq_ok.mpr same⟩

variable (sound : Pool.borderVlan.Sound store.border)

include sound

theorem sane_allocate : Result.Sane contested ((border.allocate lock switch owner).run store).1 := by
  have admits : Pool.borderVlan.Admits (some switch) := fun _ => rfl
  have sound : Pool.borderVlan.Sound (store.rows .borderVlan) := sound
  rw [allocate, StoreM.fst_bind_ofExcept, StoreM.fst_onPool]
  refine ((sound.sane_allocate admits rfl).map _).bind fun raw done => ?_
  obtain ⟨⟨raw, left⟩, given, rfl⟩ := Result.map_eq_ok.mp done
  exact Result.sane_of_ok (vlan_ok (sound.names_of_allocate admits given))

theorem sane_release : Result.Sane contested ((border.release lock switch owner).run store).1 := by
  have sound : Pool.borderVlan.Sound (store.rows .borderVlan) := sound
  rw [release, StoreM.fst_bind_ofExcept, StoreM.fst_onPool]
  rcases @Pool.Sound.release_cases contested _ _ (some switch) (border.rangesOf switch) owner lock sound with
    ⟨e, refused, sane⟩ | ⟨held, left, done, named⟩
  · rw [refused]
    exact fun e failed => by cases failed; exact sane
  · rw [done]
    exact Result.sane_of_ok (Result.mapM_head?_eq_ok fun raw given => vlan_ok (named raw given))

theorem find_ok : ∃ found, ((find switch owner).run store).1 = .ok found := by
  obtain ⟨found, done, named⟩ := @Pool.Sound.find_ok _ _ (some switch) owner sound
  rw [find, StoreM.run_read, done]
  cases found with
  | none => exact ⟨none, rfl⟩
  | some id =>
      obtain ⟨vlan, read⟩ := vlan_ok (named id rfl)
      exact ⟨some vlan, congrArg (Except.map some) read⟩

theorem heldBy_ok : ∃ held, ((heldBy owner).run store).1 = .ok held := by
  have each : ∀ held ∈ (((store.border.filter (!·.isFree)).map PoolRow.toOwned).filter (·.owner == owner)).filterMap
      (fun row => row.scope.map fun switch => (switch, row)),
      ∃ pair, ((vlan held.2.id).map fun id => (held.1, id)) = .ok pair := by
    intro held member
    obtain ⟨owned, among, paired⟩ := List.mem_filterMap.mp member
    obtain ⟨row, known, rfl⟩ := List.mem_map.mp (List.mem_of_mem_filter among)
    obtain ⟨switch, _, rfl⟩ := Option.map_eq_some_iff.mp paired
    exact ⟨_, congrArg (Except.map fun id => (switch, id)) (vlan_of_row sound (List.mem_of_mem_filter known))⟩
  obtain ⟨pairs, read⟩ := Result.mapM_ok each
  refine ⟨pairs.mergeSort holdsBefore, ?_⟩
  rw [heldBy, StoreM.run_read, sound.owned_eq]
  exact Result.bind_eq_ok.mpr ⟨_, rfl, Result.bind_eq_ok.mpr ⟨pairs, read, rfl⟩⟩

end BorderPool

end OverlayFabric
