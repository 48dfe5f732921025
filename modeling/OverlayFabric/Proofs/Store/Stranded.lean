import OverlayFabric.Proofs.Store.Lending

namespace OverlayFabric

def PoolRow.isStranded (ranges : RangeSet) (known : String → Bool) (row : PoolRow) : Bool :=
  !row.isFree && !(Pool.covers ranges row || known row.owner)

namespace PoolRow

variable {row : PoolRow} {ranges : RangeSet} {known : String → Bool}

theorem isStranded_iff : row.isStranded ranges known = true ↔
    row.owner ≠ "" ∧ Pool.covers ranges row = false ∧ known row.owner = false := by
  simp [isStranded, isFree]

end PoolRow

namespace Pool

variable {pool : Pool} {rows : List PoolRow} {row : PoolRow} {scope : Option String} {ranges : RangeSet} {owner : String}
  {id : Nat} {keep : PoolRow → Bool}

theorem Sound.filter (sound : pool.Sound rows) : pool.Sound (rows.filter keep) :=
  ⟨sound.distinct.sublist (List.filter_sublist.map _), fun row member => sound.named row (List.mem_of_mem_filter member),
    fun row member => sound.placed row (List.mem_of_mem_filter member)⟩

theorem Single.filter (single : pool.Single rows) : pool.Single (rows.filter keep) :=
  single.of_owned fun _ member _ => List.mem_of_mem_filter member

theorem releaseId_of_outside (outside : ranges.contains id = false) : ∃ known,
    pool.releaseId .free scope ranges id rows = .ok (known, rows.filter (!·.hasId (pool.scopeOf scope) id)) := by
  unfold releaseId giveBack
  rw [Lock.claim_free]
  by_cases present : rows.any (·.hasId (pool.scopeOf scope) id) = true
  · exact ⟨true, by simp only [present, outside]; rfl⟩
  · refine ⟨false, ?_⟩
    have kept : rows.filter (!·.hasId (pool.scopeOf scope) id) = rows :=
      List.filter_eq_self.mpr fun row member => by
        simpa using fun has => present (List.any_eq_true.mpr ⟨row, member, has⟩)
    rw [kept]
    simp only [present]
    rfl

theorem Sound.after_release_of_outside (sound : pool.Sound rows) (admits : pool.Admits scope)
    (outside : ∀ row ∈ rows, row.isOwnedIn (pool.scopeOf scope) owner = true → covers ranges row = false) :
    pool.after rows ⟨.free, scope, ranges, .release owner⟩ = rows.filter (!·.isOwnedIn (pool.scopeOf scope) owner) := by
  rw [sound.after_release admits, ← List.filterMap_eq_filter]
  refine List.filterMap_congr fun row member => ?_
  by_cases owned : row.isOwnedIn (pool.scopeOf scope) owner = true
  · simp [Pool.returned, owned, outside row member owned, Option.guard]
  · simp [Pool.returned, owned, Option.guard]

theorem Distinct.any_hasId (distinct : pool.Distinct rows) (admits : pool.Admits scope) {pick : PoolRow → Bool}
    {idOf : PoolRow → Nat} (has : ∀ other ∈ rows, other.hasId (pool.scopeOf scope) (idOf other) = true)
    (member : row ∈ rows) : ((rows.filter pick).any fun other => row.hasId (pool.scopeOf scope) (idOf other)) = pick row := by
  rw [Bool.eq_iff_iff, List.any_eq_true]
  constructor
  · rintro ⟨other, among, same⟩
    obtain ⟨known, picked⟩ := List.mem_filter.mp among
    rwa [distinct.eq_of_hasId admits member known same (has other known)]
  · exact fun picked => ⟨row, List.mem_filter.mpr ⟨member, picked⟩, has row member⟩

theorem Single.any_isOwnedIn (single : pool.Single rows) {pick : PoolRow → Bool} {placeOf : PoolRow → Option String}
    (placed : ∀ other ∈ rows, pool.Admits (placeOf other) ∧
      other.isOwnedIn (pool.scopeOf (placeOf other)) other.owner = true)
    (named : ∀ row, pick row = true → row.owner ≠ "") (member : row ∈ rows) :
    ((rows.filter pick).any fun other => row.isOwnedIn (pool.scopeOf (placeOf other)) other.owner) = pick row := by
  rw [Bool.eq_iff_iff, List.any_eq_true]
  constructor
  · rintro ⟨other, among, same⟩
    obtain ⟨known, picked⟩ := List.mem_filter.mp among
    obtain ⟨admits, own⟩ := placed other known
    rwa [single.eq_of_isOwnedIn admits (named other picked) member known same own]
  · exact fun picked => ⟨row, List.mem_filter.mpr ⟨member, picked⟩, (placed row member).2⟩

end Pool

namespace SegmentPool

variable {segments : SegmentPool} {store : Store} {id : SegmentId}

theorem run_owners (sound : segments.pool.Sound (store.rows segments.pool)) : segments.owners.run store =
    (.ok (((store.rows segments.pool).filter (!·.isFree)).map fun row => (segmentOf row, row.owner)), store) := by
  unfold owners
  rw [StoreM.run_read, sound.owned_eq]
  refine Prod.ext (Result.bind_eq_ok.mpr ⟨_, rfl, ?_⟩) rfl
  rw [List.mapM_map]
  refine Result.mapM_eq_ok fun row member => ?_
  exact congrArg (Except.map fun id => (id, row.owner)) (segment_of_row sound (List.mem_of_mem_filter member)).1

theorem run_releaseId_of_outside (outside : segments.inRange id = false) : ∃ known,
    (segments.releaseId .free id).run store = (.ok known, store.setRows segments.pool
      ((store.rows segments.pool).filter (!·.hasId (segments.pool.scopeOf none) id.val))) := by
  obtain ⟨known, done⟩ :=
    @Pool.releaseId_of_outside segments.pool (store.rows segments.pool) none segments.ranges id.val outside
  refine ⟨known, ?_⟩
  unfold releaseId
  rw [StoreM.run_onPool, done]

end SegmentPool

namespace BorderPool

variable {border : BorderPool} {store : Store} {switch owner : String}

theorem run_owners (sound : Pool.borderVlan.Sound store.border) : owners.run store =
    (.ok ((store.border.filter (!·.isFree)).map fun row => ((leafOf row).1, (leafOf row).2, row.owner)), store) := by
  unfold owners
  rw [StoreM.run_read, sound.owned_eq]
  refine Prod.ext (Result.bind_eq_ok.mpr ⟨_, rfl, ?_⟩) rfl
  rw [filterMap_placed sound.placed, List.mapM_map]
  refine Result.mapM_eq_ok fun row member => ?_
  exact congrArg (Except.map fun id => (row.scope.getD "", id, row.owner))
    (vlan_of_row sound (List.mem_of_mem_filter member))

theorem run_release_of_outside (sound : Pool.borderVlan.Sound (store.rows .borderVlan))
    (outside : ∀ row ∈ store.rows .borderVlan, row.isOwnedIn (some switch) owner = true →
      Pool.covers (border.rangesOf switch) row = false) :
    ∃ held, (border.release .free switch owner).run store = (.ok held,
      store.setRows .borderVlan ((store.rows .borderVlan).filter (!·.isOwnedIn (some switch) owner))) := by
  obtain ⟨held, done⟩ := @run_release border store switch owner sound
  have admits : Pool.borderVlan.Admits (some switch) := fun _ => rfl
  have dropped : store.act .borderVlan ⟨.free, some switch, border.rangesOf switch, .release owner⟩ = _ :=
    congrArg (store.setRows .borderVlan) (sound.after_release_of_outside admits outside)
  exact ⟨held, done.trans (Prod.ext rfl dropped)⟩

end BorderPool
end OverlayFabric
