import OverlayFabric.Proofs.Pool.Unreserved
import OverlayFabric.Proofs.Store.Fault

namespace OverlayFabric

theorem Pool.Unreserved.owned {pool : Pool} {rows : List PoolRow} (table : pool.Unreserved rows) :
    pool.owned rows = .ok ((rows.filter (!·.isFree)).map PoolRow.toOwned) := by
  refine Result.mapM_eq_ok fun row member => ?_
  obtain ⟨known, taken⟩ := List.mem_filter.mp member
  obtain ⟨id, word⟩ := table.words row known (by simpa [PoolRow.isFree] using taken)
  rw [word, PoolRow.toOwned, (Pool.word_eq_ok.mp word).1, Int.toNat_natCast]
  rfl

namespace Store

def actAll (store : Store) (ops : List (Pool × Pool.Operation)) : Store :=
  ops.foldl (fun store (pool, op) => store.act pool op) store

def Unreserved (store : Store) : Prop := ∀ pool : Pool, pool.Unreserved (store.rows pool)

variable {store : Store} {pool : Pool} {op : Pool.Operation} {ops : List (Pool × Pool.Operation)}

theorem unreserved_empty : ({} : Store).Unreserved := by
  intro pool
  cases pool <;> exact Pool.Unreserved.nil

theorem Unreserved.act (tables : store.Unreserved) (granted : ∀ id owner, op.action ≠ .reserve id owner) :
    (store.act pool op).Unreserved := by
  intro other
  by_cases same : other = pool
  · rw [same, rows_act]
    exact (tables pool).after granted
  · rw [rows_act_of_ne same]
    exact tables other

theorem Unreserved.actAll (tables : store.Unreserved)
    (granted : ∀ step ∈ ops, ∀ id owner, step.2.action ≠ .reserve id owner) : (store.actAll ops).Unreserved := by
  induction ops generalizing store with
  | nil => exact tables
  | cons step rest ih => exact ih (tables.act (granted step (.head _))) fun other member => granted other (.tail _ member)

end Store

variable {store : Store} {owner switch : String}

theorem SegmentPool.fst_release {segments : SegmentPool} (table : segments.pool.Unreserved (store.rows segments.pool))
    (unscoped : segments.pool.isScoped = false) (named : owner ≠ "") :
    ((segments.release .free owner).run store).1 = ((segments.find owner).run store).1 := by
  obtain ⟨found, search, done⟩ :=
    @Pool.Unreserved.release_eq _ _ none segments.ranges _ table (Pool.admits_of_unscoped unscoped) named
  rw [release, StoreM.fst_bind_ofExcept, StoreM.fst_onPool, done, find, StoreM.run_read, search]
  cases found <;> rfl

namespace BorderPool

variable {border : BorderPool} {vlan : VlanId} {held : List (String × VlanId)}
  (table : Pool.borderVlan.Unreserved store.border) (named : owner ≠ "")

include table named

theorem fst_release : ((border.release .free switch owner).run store).1 = ((find switch owner).run store).1 := by
  obtain ⟨found, search, done⟩ :=
    @Pool.Unreserved.release_eq _ _ (some switch) (border.rangesOf switch) _ table (fun _ => rfl) named
  have done : Pool.borderVlan.release .free (some switch) (border.rangesOf switch) owner (store.rows .borderVlan) = _ := done
  rw [release, StoreM.fst_bind_ofExcept, StoreM.fst_onPool, done, find, StoreM.run_read, search]
  cases found <;> rfl

theorem search_of_row {row : PoolRow} (member : row ∈ store.border) (here : row.scope = some switch)
    (owned : row.owner = owner) :
    Pool.borderVlan.find (some switch) owner store.border = .ok (some row.id.toNat) := by
  obtain ⟨id, word⟩ := table.words row member (owned ▸ named)
  have its := (Pool.word_eq_ok.mp word).1
  rw [its, Int.toNat_natCast]
  exact (@Pool.Unreserved.find_eq_some_iff _ _ id (some switch) _ table (fun _ => rfl) named).mpr
    ⟨row, member, PoolRow.hasId_iff.mpr ⟨beq_iff_eq.mpr here, its⟩, owned⟩

theorem find_eq_some_iff : ((find switch owner).run store).1 = .ok (some vlan) ↔
    ∃ row ∈ store.border, row.scope = some switch ∧ row.owner = owner ∧ BorderPool.vlan row.id.toNat = .ok vlan := by
  rw [find, StoreM.run_read]
  constructor
  · intro done
    obtain ⟨found, search, read⟩ := Result.bind_eq_ok.mp done
    cases found with
    | none => cases read
    | some id =>
        obtain ⟨vlan', read, same⟩ := Result.map_eq_ok.mp read
        cases same
        obtain ⟨row, member, has, owned⟩ := Pool.find_eq_some search
        obtain ⟨here, its⟩ := PoolRow.hasId_iff.mp has
        refine ⟨row, member, beq_iff_eq.mp here, owned, ?_⟩
        rw [its, Int.toNat_natCast, read]
  · rintro ⟨row, member, here, owned, read⟩
    refine Result.bind_eq_ok.mpr ⟨_, search_of_row table named member here owned, ?_⟩
    rw [Option.mapM_some, read]
    rfl

theorem find_ok_iff : (∃ found, ((find switch owner).run store).1 = .ok found) ↔
    ∀ row ∈ store.border, row.scope = some switch → row.owner = owner → ∃ vlan, BorderPool.vlan row.id.toNat = .ok vlan := by
  constructor
  · rintro ⟨found, done⟩ row member here owned
    obtain ⟨id, search, read⟩ := Result.bind_eq_ok.mp done
    cases (search_of_row table named member here owned).symm.trans search
    obtain ⟨vlan, read, _⟩ := Result.map_eq_ok.mp read
    exact ⟨vlan, read⟩
  · intro each
    obtain ⟨found, search, _⟩ := table.find_ok (fun _ => rfl : Pool.borderVlan.Admits (some switch)) named
    rw [find, StoreM.run_read, search]
    cases found with
    | none => exact ⟨none, rfl⟩
    | some id =>
        obtain ⟨row, member, has, owned⟩ := Pool.find_eq_some search
        obtain ⟨here, its⟩ := PoolRow.hasId_iff.mp has
        obtain ⟨vlan, read⟩ := each row member (beq_iff_eq.mp here) owned
        rw [its, Int.toNat_natCast] at read
        exact ⟨some vlan, congrArg (Except.map some) read⟩

theorem fst_heldBy : ((heldBy owner).run store).1 =
    ((store.border.filter (·.owner == owner)).mapM fun row =>
      (BorderPool.vlan row.id.toNat).map fun vlan => (row.scope.getD "", vlan)).map (·.mergeSort holdsBefore) := by
  have decoded : ((store.border.filter (·.owner == owner)).map fun row => (row.scope.getD "", row.toOwned)).mapM
      (fun held => (BorderPool.vlan held.2.id).map fun id => (held.1, id)) =
      (store.border.filter (·.owner == owner)).mapM fun row =>
        (BorderPool.vlan row.id.toNat).map fun vlan => (row.scope.getD "", vlan) := List.mapM_map
  rw [← decoded, ← filterMap_owned table.placed named, heldBy, StoreM.run_read, table.owned]
  rfl

theorem heldBy_ok_iff : (∃ held, ((heldBy owner).run store).1 = .ok held) ↔
    ∀ switch, ∃ found, ((find switch owner).run store).1 = .ok found := by
  simp only [find_ok_iff table named, fst_heldBy table named]
  constructor
  · rintro ⟨held, done⟩ switch row member here owned
    obtain ⟨pairs, read, _⟩ := Result.map_eq_ok.mp done
    obtain ⟨pair, read⟩ := Result.ok_of_mapM read row (List.mem_filter.mpr ⟨member, beq_iff_eq.mpr owned⟩)
    obtain ⟨vlan, read, _⟩ := Result.map_eq_ok.mp read
    exact ⟨vlan, read⟩
  · intro each
    have read : ∀ row ∈ store.border.filter (·.owner == owner), ∃ pair, (BorderPool.vlan row.id.toNat).map
        (fun vlan => (row.scope.getD "", vlan)) = .ok pair := by
      intro row among
      obtain ⟨member, owned⟩ := List.mem_filter.mp among
      obtain ⟨switch, here⟩ := Option.isSome_iff_exists.mp (table.placed row member rfl)
      obtain ⟨vlan, read⟩ := each switch row member here (beq_iff_eq.mp owned)
      exact ⟨_, congrArg (Except.map fun vlan => (row.scope.getD "", vlan)) read⟩
    obtain ⟨pairs, done⟩ := Result.mapM_ok read
    exact ⟨_, congrArg (Except.map _) done⟩

theorem mem_of_heldBy (done : ((heldBy owner).run store).1 = .ok held) :
    (switch, vlan) ∈ held ↔ ((find switch owner).run store).1 = .ok (some vlan) := by
  rw [fst_heldBy table named] at done
  obtain ⟨pairs, read, rfl⟩ := Result.map_eq_ok.mp done
  rw [List.mem_mergeSort, Result.mem_of_mapM read, find_eq_some_iff table named]
  constructor
  · rintro ⟨row, among, read⟩
    obtain ⟨member, owned⟩ := List.mem_filter.mp among
    obtain ⟨found, decoded, same⟩ := Result.map_eq_ok.mp read
    obtain ⟨place, here⟩ := Option.isSome_iff_exists.mp (table.placed row member rfl)
    rw [here] at same
    cases same
    exact ⟨row, member, here, beq_iff_eq.mp owned, decoded⟩
  · rintro ⟨row, member, here, owned, read⟩
    refine ⟨row, List.mem_filter.mpr ⟨member, beq_iff_eq.mpr owned⟩, ?_⟩
    rw [read, here]
    rfl

theorem ascending_of_heldBy (done : ((heldBy owner).run store).1 = .ok held) : held.Pairwise fun a b => a.1 < b.1 := by
  rw [fst_heldBy table named] at done
  obtain ⟨pairs, read, rfl⟩ := Result.map_eq_ok.mp done
  have sorted : (pairs.mergeSort holdsBefore).Pairwise fun a b => holdsBefore a b = true :=
    List.pairwise_mergeSort (fun a b c => @holdsBefore_trans a b c) holdsBefore_total _
  have switches : pairs.map Prod.fst = (store.border.filter (·.owner == owner)).map fun row => row.scope.getD "" := by
    refine Result.map_of_mapM (fun row pair read => ?_) read
    obtain ⟨_, _, rfl⟩ := Result.map_eq_ok.mp read
    rfl
  -- No two rows of the owner are of one leaf.
  have once : (pairs.map Prod.fst).Nodup := by
    rw [switches]
    refine ((List.Nodup.of_map _ table.distinct).filter _).map_on fun a aMember b bMember same => ?_
    obtain ⟨known, own⟩ := List.mem_filter.mp aMember
    obtain ⟨second, also⟩ := List.mem_filter.mp bMember
    obtain ⟨here, first⟩ := Option.isSome_iff_exists.mp (table.placed a known rfl)
    obtain ⟨there, last⟩ := Option.isSome_iff_exists.mp (table.placed b second rfl)
    have place : a.scope = b.scope := by
      rw [first, last] at same ⊢
      exact congrArg some same
    exact table.single a known b second place ((beq_iff_eq.mp own).trans (beq_iff_eq.mp also).symm)
      (beq_iff_eq.mp own ▸ named)
  have apart : (pairs.mergeSort holdsBefore).Pairwise fun a b => a.1 ≠ b.1 :=
    List.pairwise_map.mp (((List.mergeSort_perm pairs holdsBefore).map Prod.fst).nodup_iff.mpr once)
  refine (sorted.and apart).imp fun ⟨before, differ⟩ => ?_
  exact (holdsBefore_iff.mp before).resolve_right fun both => differ both.1

end BorderPool

namespace Store

/-- What an owner holds of each scope is one identifier at most, and searching for it, giving it back and
listing it agree. An identifier that is no segment or no VLAN makes all three fail alike. -/
structure HeldOnce (store : Store) (owner : String) : Prop where
  once : ∀ (pool : Pool) scope, pool.Admits scope →
    ((store.rows pool).filter (·.isOwnedIn (pool.scopeOf scope) owner)).length ≤ 1
  found : ∀ (pool : Pool) scope, pool.Admits scope → ∃ found, pool.find scope owner (store.rows pool) = .ok found ∧
    ∀ id : Nat, found = some id ↔
      ∃ row ∈ store.rows pool, row.hasId (pool.scopeOf scope) id = true ∧ row.owner = owner
  returned : ∀ (pool : Pool) scope ranges, pool.Admits scope → ∃ found,
    pool.find scope owner (store.rows pool) = .ok found ∧
    pool.release .free scope ranges owner (store.rows pool) =
      .ok (found.toList, (store.rows pool).filterMap (Pool.returned (pool.scopeOf scope) ranges owner))
  segments : ∀ segments : SegmentPool, segments.pool.isScoped = false →
    ((segments.release .free owner).run store).1 = ((segments.find owner).run store).1
  vlans : ∀ (border : BorderPool) switch,
    ((border.release .free switch owner).run store).1 = ((BorderPool.find switch owner).run store).1
  listed : ∀ held, ((BorderPool.heldBy owner).run store).1 = .ok held →
    (held.Pairwise fun a b => a.1 < b.1) ∧
      ∀ switch vlan, (switch, vlan) ∈ held ↔ ((BorderPool.find switch owner).run store).1 = .ok (some vlan)
  lists : (∃ held, ((BorderPool.heldBy owner).run store).1 = .ok held) ↔
    ∀ switch, ∃ found, ((BorderPool.find switch owner).run store).1 = .ok found

theorem Unreserved.heldOnce (tables : store.Unreserved) (named : owner ≠ "") : store.HeldOnce owner where
  once pool scope admits := (tables pool).owned_once admits named
  found pool scope admits := by
    obtain ⟨found, search, _⟩ := (tables pool).find_ok admits named
    refine ⟨found, search, fun id => ?_⟩
    rw [← (tables pool).find_eq_some_iff admits named, search, Except.ok.injEq]
  returned pool scope ranges admits := (tables pool).release_eq admits named
  segments segments unscoped := SegmentPool.fst_release (tables segments.pool) unscoped named
  vlans border switch := BorderPool.fst_release (tables .borderVlan) named
  listed held done := ⟨BorderPool.ascending_of_heldBy (tables .borderVlan) named done,
    fun switch vlan => BorderPool.mem_of_heldBy (tables .borderVlan) named done⟩
  lists := BorderPool.heldBy_ok_iff (tables .borderVlan) named

/-- Whatever is done without reserving, and with whatever ranges, nobody comes to hold two identifiers. -/
theorem held_once {ops : List (Pool × Pool.Operation)}
    (granted : ∀ step ∈ ops, ∀ id owner, step.2.action ≠ .reserve id owner) {earlier : List (Pool × Pool.Operation)}
    (part : earlier <+: ops) (named : owner ≠ "") : (({} : Store).actAll earlier).HeldOnce owner :=
  (unreserved_empty.actAll fun step member => granted step (part.subset member)).heldOnce named

theorem held_once_while_ranges_move :
    let on (switch : String) (ranges : RangeSet) (action : Pool.Action) : Pool × Pool.Operation :=
      (.borderVlan, ⟨.free, some switch, ranges, action⟩)
    let low : RangeSet := { ranges := [⟨100, 101, by decide⟩] }
    let high : RangeSet := { ranges := [⟨200, 200, by decide⟩] }
    let ops := [on "10.0.0.2" low .sync, on "10.0.0.2" low (.allocate "core"), on "10.0.0.1" low .sync,
      on "10.0.0.1" low (.allocate "core"), on "10.0.0.1" high .sync, on "10.0.0.1" high (.allocate "core"),
      on "10.0.0.1" high (.releaseId 101), on "10.0.0.1" high (.allocate "core")]
    let store := ({} : Store).actAll ops
    store.border = [⟨some "10.0.0.2", 100, ""⟩, ⟨some "10.0.0.2", 101, "core"⟩, ⟨some "10.0.0.1", 200, "core"⟩] ∧
      store.HeldOnce "core" := by
  intro on low high ops store
  refine ⟨?_, held_once (fun step member id owner => ?_) (List.prefix_refl ops) (by decide)⟩
  · simp only [store, ops, on, actAll, act, Pool.after, Pool.perform, Pool.sync, Pool.missing_eq_filter]
    decide +kernel
  · simp only [ops, on, List.mem_cons, List.not_mem_nil, or_false] at member
    rcases member with rfl | rfl | rfl | rfl | rfl | rfl | rfl | rfl <;> simp

end Store

end OverlayFabric
