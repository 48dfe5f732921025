import OverlayFabric.Pool.Claim
import OverlayFabric.Pool.Sync
import OverlayFabric.Store.Binding

/-!
The tables together, and operations on them. An operation that fails leaves the table it was working
on as it was; what an earlier one of the same action did stays done.
-/

namespace OverlayFabric

structure Store where
  l2 : List PoolRow := []
  l3 : List PoolRow := []
  border : List PoolRow := []
  bindings : Bindings := .empty
  deriving DecidableEq, Repr

instance : Inhabited Store := ⟨{}⟩

namespace Store

def rows (store : Store) : Pool → List PoolRow
  | .l2Segment => store.l2
  | .l3Segment => store.l3
  | .borderVlan => store.border

def setRows (store : Store) (pool : Pool) (rows : List PoolRow) : Store :=
  match pool with
  | .l2Segment => { store with l2 := rows }
  | .l3Segment => { store with l3 := rows }
  | .borderVlan => { store with border := rows }

end Store

abbrev StoreM (α : Type) := ExceptT StoreError (StateM Store) α

namespace StoreM

def run {α : Type} (action : StoreM α) (store : Store) : Except StoreError α × Store := action store

def read {α : Type} (f : Store → Except StoreError α) : StoreM α := fun store => (f store, store)

def onPool {α : Type} (pool : Pool) (f : List PoolRow → Except StoreError (α × List PoolRow)) :
    StoreM α := fun store =>
  match f (store.rows pool) with
  | .ok (value, rows) => (.ok value, store.setRows pool rows)
  | .error e => (.error e, store)

def onBindings {α : Type} (f : Bindings → Except StoreError (α × Bindings)) : StoreM α :=
  fun store =>
    match f store.bindings with
    | .ok (value, bindings) => (.ok value, { store with bindings })
    | .error e => (.error e, store)

def ofExcept {α : Type} (result : Except StoreError α) : StoreM α := read fun _ => result

end StoreM
end OverlayFabric
