import OverlayFabric.Proofs.Pool.Exhaustion
import OverlayFabric.Proofs.Pool.Lending
import OverlayFabric.Proofs.Pool.Unreserved

namespace OverlayFabric.Pool

variable {pool : Pool} {scope : Option String} {ranges : RangeSet} {rows front back left : List PoolRow} {row : PoolRow}
  {owner : String} {id : Nat} {lock : Lock}

theorem release_of_unheld (unheld : ∀ row ∈ rows, row.isOwnedIn (pool.scopeOf scope) owner = false) :
    pool.release .free scope ranges owner rows = .ok ([], rows) := by
  have none : rows.filter (·.isOwnedIn (pool.scopeOf scope) owner) = [] := by
    simpa [List.filter_eq_nil_iff] using unheld
  unfold release
  rw [none]
  rfl

theorem unheld_of_returned {place : Option String} (named : owner ≠ "") :
    ∀ row ∈ rows.filterMap (returned place ranges owner), row.isOwnedIn place owner = false := by
  intro row member
  rcases mem_filterMap_returned.mp member with ⟨_, other⟩ | ⟨held, _, _, _, rfl⟩
  · exact other
  · rw [← Bool.not_eq_true, PoolRow.isOwnedIn_iff]
    exact fun owned => named owned.2.symm

theorem release_of_fits (distinct : pool.Distinct rows) (admits : pool.Admits scope) (fit : ∀ row ∈ rows, row.FitsWord) :
    pool.release .free scope ranges owner rows =
      .ok ((rows.filter (·.isOwnedIn (pool.scopeOf scope) owner)).map (·.id.toNat),
        rows.filterMap (returned (pool.scopeOf scope) ranges owner)) :=
  distinct.release_eq admits (Result.mapM_eq_ok fun row member => word_of_fits (fit row (List.mem_of_mem_filter member)))

theorem release_handed (distinct : pool.Distinct (front ++ row :: back)) (admits : pool.Admits scope)
    (fit : ∀ other ∈ front ++ row :: back, other.FitsWord)
    (unheld : ∀ other ∈ front ++ row :: back, other.isOwnedIn (pool.scopeOf scope) owner = false)
    (here : row.inScope (pool.scopeOf scope) = true) (free : row.owner = "") (inside : covers ranges row = true) :
    pool.release .free scope ranges owner (front ++ row.setOwner owner :: back) =
      .ok ([row.id.toNat], front ++ row :: back) := by
  have handed : (row.setOwner owner).isOwnedIn (pool.scopeOf scope) owner = true :=
    PoolRow.isOwnedIn_iff.mpr ⟨by rwa [PoolRow.inScope_setOwner], rfl⟩
  have before : ∀ other ∈ front, other.isOwnedIn (pool.scopeOf scope) owner = false :=
    fun other member => unheld other (List.mem_append_left _ member)
  have behind : ∀ other ∈ back, other.isOwnedIn (pool.scopeOf scope) owner = false :=
    fun other member => unheld other (List.mem_append_right _ (.tail _ member))
  have restored : returned (pool.scopeOf scope) ranges owner (row.setOwner owner) = some row := by
    have covered : covers ranges (row.setOwner owner) = true := inside
    rw [returned, if_pos handed, if_pos covered, ← free]
    rfl
  have fits : ∀ other ∈ front ++ row.setOwner owner :: back, other.FitsWord := by
    intro other member
    rcases List.mem_append.mp member with known | known
    · exact fit other (List.mem_append_left _ known)
    · rcases List.mem_cons.mp known with rfl | known
      · exact fit row (List.mem_append_right _ (.head _))
      · exact fit other (List.mem_append_right _ (.tail _ known))
  rw [release_of_fits (by simpa [Distinct] using distinct) admits fits, List.filter_append, List.filter_cons_of_pos handed,
    List.filter_eq_nil_iff.mpr (by simpa using before), List.filter_eq_nil_iff.mpr (by simpa using behind),
    List.filterMap_append, List.filterMap_cons_some restored, filterMap_returned_of_unheld before,
    filterMap_returned_of_unheld behind]
  rfl

theorem release_allocated (distinct : pool.Distinct rows) (admits : pool.Admits scope) (fit : ∀ row ∈ rows, row.FitsWord)
    (unheld : ∀ row ∈ rows, row.isOwnedIn (pool.scopeOf scope) owner = false)
    (done : pool.allocate lock scope ranges owner rows = .ok (id, left)) :
    pool.release .free scope ranges owner left = .ok ([id], rows) := by
  have inside := allocateWithin_inside unheld distinct admits done
  rcases allocateWithin_eq_ok distinct admits done with ⟨_, row, member, has, owned⟩ | ⟨rfl, row, member, has, free⟩
  · have held := PoolRow.isOwnedIn_iff.mpr ⟨(PoolRow.hasId_iff.mp has).1, owned⟩
    rw [unheld row member] at held
    cases held
  · obtain ⟨front, back, rfl⟩ := List.append_of_mem member
    obtain ⟨here, same⟩ := PoolRow.hasId_iff.mp has
    have its : row.id.toNat = id := by simp [same]
    have covered : covers ranges row = true := by rwa [covers, its]
    rw [map_handOver distinct admits has free, release_handed distinct admits fit unheld here free covered, its]

/-- Giving back all that an owner holds in a scope frees the rows inside the ranges and drops the others, leaves
every other row alone, and changes nothing a second time. It undoes an allocation to an owner without any. -/
theorem release_undoes_allocation (distinct : pool.Distinct rows) (admits : pool.Admits scope)
    (fit : ∀ row ∈ rows, row.FitsWord) (named : owner ≠ "") :
    let place := pool.scopeOf scope
    let left := rows.filterMap fun row =>
      if row.isOwnedIn place owner then
        if covers ranges row then some { row with owner := "" } else none
      else some row
    pool.release .free scope ranges owner rows =
        .ok ((rows.filter (·.isOwnedIn place owner)).map (·.id.toNat), left) ∧
      (∀ later, pool.release .free scope later owner left = .ok ([], left)) ∧
      ∀ lock id after, (∀ row ∈ rows, row.isOwnedIn place owner = false) →
        pool.allocate lock scope ranges owner rows = .ok (id, after) →
        pool.release .free scope ranges owner after = .ok ([id], rows) := by
  refine ⟨release_of_fits distinct admits fit, fun later => ?_, fun lock id after unheld done => ?_⟩
  · exact release_of_unheld (unheld_of_returned named)
  · exact release_allocated distinct admits fit unheld done

theorem release_undoes_allocation_beside_stranded_rows :
    let leaf := some "10.0.0.1"
    let ranges : RangeSet := { ranges := [⟨100, 110, by decide⟩] }
    let rows : List PoolRow := [⟨leaf, 100, ""⟩, ⟨some "10.0.0.2", 100, "edge"⟩, ⟨leaf, 101, "edge"⟩, ⟨leaf, 300, "core"⟩,
      ⟨leaf, 301, "edge"⟩, ⟨leaf, 102, ""⟩]
    let left : List PoolRow := [⟨leaf, 100, ""⟩, ⟨some "10.0.0.2", 100, "edge"⟩, ⟨leaf, 101, ""⟩, ⟨leaf, 300, "core"⟩,
      ⟨leaf, 102, ""⟩]
    Pool.borderVlan.release .free leaf ranges "edge" rows = .ok ([101, 301], left) ∧
      Pool.borderVlan.release .free leaf ranges "edge" left = .ok ([], left) ∧
      Pool.borderVlan.release .free leaf ranges "edge"
        [⟨leaf, 100, ""⟩, ⟨some "10.0.0.2", 100, "edge"⟩, ⟨leaf, 101, ""⟩, ⟨leaf, 300, "core"⟩, ⟨leaf, 102, "edge"⟩] =
          .ok ([102], left) := by
  intro leaf ranges rows left
  have admits : Pool.borderVlan.Admits leaf := fun _ => rfl
  obtain ⟨given, again, _⟩ := @release_undoes_allocation .borderVlan leaf ranges rows "edge" (by decide) admits
    (by decide) (by decide)
  obtain ⟨_, _, restored⟩ := @release_undoes_allocation .borderVlan leaf ranges left "edge" (by decide) admits
    (by decide) (by decide)
  exact ⟨given, again ranges, restored .free 102 _ (by decide) (by decide)⟩

end OverlayFabric.Pool
