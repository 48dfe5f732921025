import Mathlib.Data.List.Nodup
import Mathlib.Data.List.Perm.Basic
import OverlayFabric.Pool.Claim
import OverlayFabric.Pool.Sync
import OverlayFabric.Proofs.Result

namespace OverlayFabric

namespace PoolRow

variable {row : PoolRow} {scope : Option String} {owner : String} {id : Nat}

theorem hasId_iff : row.hasId scope id = true ↔ row.inScope scope = true ∧ row.id = id := by
  simp [hasId]

theorem isOwnedIn_iff : row.isOwnedIn scope owner = true ↔ row.inScope scope = true ∧ row.owner = owner := by
  simp [isOwnedIn]

theorem isFreeIn_iff : row.isFreeIn scope = true ↔ row.inScope scope = true ∧ row.owner = "" := by
  simp [isFreeIn, isFree]

@[simp] theorem inScope_setOwner : (row.setOwner owner).inScope scope = row.inScope scope := by
  cases scope <;> rfl

@[simp] theorem hasId_setOwner : (row.setOwner owner).hasId scope id = row.hasId scope id := by
  simp [hasId, setOwner, inScope]

@[simp] theorem id_setOwner : (row.setOwner owner).id = row.id := rfl

def FitsWord (row : PoolRow) : Prop := 0 ≤ row.id ∧ row.id ≤ Number.wordLimit

instance : Decidable row.FitsWord := inferInstanceAs (Decidable (_ ∧ _))

end PoolRow

namespace Pool

def key (pool : Pool) (row : PoolRow) : Option String × Int := (pool.scopeOf row.scope, row.id)

def Distinct (pool : Pool) (rows : List PoolRow) : Prop := (rows.map pool.key).Nodup

instance (pool : Pool) (rows : List PoolRow) : Decidable (pool.Distinct rows) :=
  inferInstanceAs (Decidable (List.Nodup _))

def Admits (pool : Pool) (scope : Option String) : Prop := pool.isScoped = true → scope.isSome = true

variable {pool : Pool} {lock : Lock} {scope : Option String} {ranges : RangeSet} {owner : String}
  {rows after : List PoolRow} {row other : PoolRow} {id : Nat}

@[simp] theorem key_setOwner : pool.key (row.setOwner owner) = pool.key row := rfl

@[simp] theorem key_ofScope {raw : Int} :
    pool.key ⟨pool.scopeOf scope, raw, owner⟩ = (pool.scopeOf scope, raw) := by
  cases pool <;> rfl

theorem admits_of_unscoped (unscoped : pool.isScoped = false) : pool.Admits scope := by
  intro isScoped
  simp [unscoped] at isScoped

theorem scopeOf_of_unscoped (unscoped : pool.isScoped = false) : pool.scopeOf scope = none := by
  simp [scopeOf, unscoped]

theorem open_to_of_unheld (unheld : ∀ row ∈ rows, row.owner ≠ owner) :
    ∀ row ∈ rows, row.isOwnedIn scope owner = false := by
  intro row member
  rw [← Bool.not_eq_true, PoolRow.isOwnedIn_iff]
  exact fun owned => unheld row member owned.2

theorem inScope_iff (admits : pool.Admits scope) :
    row.inScope (pool.scopeOf scope) = true ↔ (pool.key row).1 = pool.scopeOf scope := by
  cases pool <;> cases scope <;> simp_all [Admits, PoolRow.inScope, scopeOf, key, isScoped]

theorem inScope_congr (same : (pool.key row).1 = (pool.key other).1) :
    row.inScope (pool.scopeOf scope) = other.inScope (pool.scopeOf scope) := by
  cases pool <;> cases scope <;> simp_all [PoolRow.inScope, scopeOf, key, isScoped]

theorem hasId_iff_key (admits : pool.Admits scope) :
    row.hasId (pool.scopeOf scope) id = true ↔ pool.key row = (pool.scopeOf scope, (id : Int)) := by
  rw [PoolRow.hasId_iff, inScope_iff admits, Prod.ext_iff]
  rfl

theorem Distinct.eq_of_key (distinct : pool.Distinct rows) (member : row ∈ rows) (second : other ∈ rows)
    (same : pool.key row = pool.key other) : row = other :=
  List.inj_on_of_nodup_map distinct member second same

theorem Distinct.eq_of_hasId (distinct : pool.Distinct rows) (admits : pool.Admits scope)
    (member : row ∈ rows) (second : other ∈ rows) (has : row.hasId (pool.scopeOf scope) id = true)
    (also : other.hasId (pool.scopeOf scope) id = true) : row = other :=
  distinct.eq_of_key member second
    (((hasId_iff_key admits).mp has).trans ((hasId_iff_key admits).mp also).symm)

theorem Distinct.elsewhere {front back : List PoolRow} (distinct : pool.Distinct (front ++ row :: back))
    (admits : pool.Admits scope) (has : row.hasId (pool.scopeOf scope) id = true) :
    ∀ other ∈ front ++ back, other.hasId (pool.scopeOf scope) id = false := by
  intro other member
  rw [← Bool.not_eq_true]
  intro also
  rw [Distinct, List.map_append, List.map_cons, List.nodup_middle, ← List.map_append, List.nodup_cons] at distinct
  exact distinct.1 (List.mem_map.mpr
    ⟨other, member, ((hasId_iff_key admits).mp also).trans ((hasId_iff_key admits).mp has).symm⟩)

theorem Distinct.map (distinct : pool.Distinct rows) {f : PoolRow → PoolRow}
    (same : ∀ row, pool.key (f row) = pool.key row) : pool.Distinct (rows.map f) := by
  have keys : (rows.map f).map pool.key = rows.map pool.key := by
    rw [List.map_map]
    exact List.map_congr_left fun row _ => same row
  rwa [Distinct, keys]

theorem Distinct.filterMap (distinct : pool.Distinct rows) {f : PoolRow → Option PoolRow}
    (same : ∀ row after, f row = some after → pool.key after = pool.key row) :
    pool.Distinct (rows.filterMap f) := by
  refine distinct.sublist ?_
  clear distinct
  induction rows with
  | nil => simp
  | cons row rest ih =>
      cases outcome : f row with
      | none =>
          rw [List.filterMap_cons_none outcome, List.map_cons]
          exact ih.cons _
      | some after =>
          rw [List.filterMap_cons_some outcome, List.map_cons, List.map_cons, same row after outcome]
          exact ih.cons_cons _

theorem perm_place (fresh : List PoolRow) : (pool.place rows fresh).Perm (rows ++ fresh) := by
  unfold place
  split
  · exact List.Perm.refl _
  · exact List.merge_perm_append _

theorem mem_place {fresh : List PoolRow} : row ∈ pool.place rows fresh ↔ row ∈ rows ∨ row ∈ fresh := by
  rw [(perm_place fresh).mem_iff, List.mem_append]

theorem Distinct.place (distinct : pool.Distinct rows) {fresh : List PoolRow} (own : pool.Distinct fresh)
    (apart : ∀ row ∈ rows, ∀ new ∈ fresh, pool.key row ≠ pool.key new) :
    pool.Distinct (pool.place rows fresh) := by
  have keys : ((pool.place rows fresh).map pool.key).Perm (rows.map pool.key ++ fresh.map pool.key) := by
    rw [← List.map_append]
    exact (perm_place fresh).map _
  refine keys.nodup_iff.mpr (List.nodup_append.mpr ⟨distinct, own, ?_⟩)
  intro a known b new
  obtain ⟨row, member, rfl⟩ := List.mem_map.mp known
  obtain ⟨arrival, came, rfl⟩ := List.mem_map.mp new
  exact apart row member arrival came

end Pool

end OverlayFabric
