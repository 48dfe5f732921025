import OverlayFabric.Proofs.Pool.Run
import OverlayFabric.Store.Allocator

namespace OverlayFabric

namespace Store

variable {store : Store} {pool other : Pool} {rows : List PoolRow}

@[simp] theorem rows_setRows : (store.setRows pool rows).rows pool = rows := by
  cases pool <;> rfl

theorem rows_setRows_of_ne (differ : other ≠ pool) : (store.setRows pool rows).rows other = store.rows other := by
  cases pool <;> cases other <;> first | rfl | exact absurd rfl differ

@[simp] theorem bindings_setRows : (store.setRows pool rows).bindings = store.bindings := by
  cases pool <;> rfl

@[simp] theorem setRows_rows : store.setRows pool (store.rows pool) = store := by
  cases pool <;> rfl

theorem setRows_setRows {others : List PoolRow} :
    (store.setRows pool rows).setRows pool others = store.setRows pool others := by
  cases pool <;> rfl

theorem rows_withBindings {bindings : Bindings} : ({ store with bindings } : Store).rows pool = store.rows pool := by
  cases pool <;> rfl

def act (store : Store) (pool : Pool) (op : Pool.Operation) : Store :=
  store.setRows pool (pool.after (store.rows pool) op)

@[simp] theorem bindings_act {op : Pool.Operation} : (store.act pool op).bindings = store.bindings :=
  bindings_setRows

@[simp] theorem rows_act {op : Pool.Operation} :
    (store.act pool op).rows pool = pool.after (store.rows pool) op := rows_setRows

theorem rows_act_of_ne {op : Pool.Operation} (differ : other ≠ pool) :
    (store.act pool op).rows other = store.rows other := rows_setRows_of_ne differ

end Store

namespace StoreM

variable {α β : Type} {store : Store}

theorem run_bind {action : StoreM α} {next : α → StoreM β} :
    (action >>= next).run store =
      match action.run store with
      | (.ok value, store) => (next value).run store
      | (.error error, store) => (.error error, store) := by
  change ExceptT.bindCont next (action store).1 (action store).2 = _
  unfold StoreM.run
  rcases action store with ⟨result, store⟩
  cases result <;> rfl

theorem run_read {f : Store → Except StoreError α} : (StoreM.read f).run store = (f store, store) := rfl

theorem run_bind_of_run {action : StoreM α} {next : α → StoreM β} {value : α} {after : Store}
    (known : action.run store = (.ok value, after)) : (action >>= next).run store = (next value).run after := by
  rw [run_bind, known]

theorem store_bind_of_kept {action : StoreM α} {next : α → StoreM β}
    (kept : ∀ value store, ((next value).run store).2 = store) :
    ((action >>= next).run store).2 = (action.run store).2 := by
  rw [run_bind]
  rcases action.run store with ⟨error | value, after⟩
  · rfl
  · exact kept value after

theorem store_bind_ofExcept {action : StoreM α} {check : α → Except StoreError β} :
    ((action >>= fun value => .ofExcept (check value)).run store).2 = (action.run store).2 :=
  store_bind_of_kept fun _ _ => rfl

variable {pool : Pool} {f : List PoolRow → Except StoreError (α × List PoolRow)}

theorem run_onPool : (StoreM.onPool pool f).run store =
    match f (store.rows pool) with
    | .ok (value, rows) => (.ok value, store.setRows pool rows)
    | .error e => (.error e, store) := rfl

theorem store_onPool {op : Pool.Operation}
    (performs : ∀ rows, (f rows).map Prod.snd = (pool.perform op rows).map Prod.snd) :
    ((StoreM.onPool pool f).run store).2 = store.act pool op := by
  have same := performs (store.rows pool)
  rw [run_onPool]
  unfold Store.act Pool.after
  cases left : f (store.rows pool) with
  | error e =>
      cases right : pool.perform op (store.rows pool) with
      | error _ => exact Store.setRows_rows.symm
      | ok _ => simp [left, right, Except.map] at same
  | ok value =>
      cases right : pool.perform op (store.rows pool) with
      | error _ => simp [left, right, Except.map] at same
      | ok answer =>
          have rows : value.2 = answer.2 := by simpa [left, right, Except.map] using same
          simp only [rows]

end StoreM

theorem Pool.snd_perform {α : Type} {result : Except StoreError (α × List PoolRow)} (answer : α → Option Nat) :
    (result.map fun (value, rows) => (answer value, rows)).map Prod.snd = result.map Prod.snd := by
  cases result <;> rfl

namespace SegmentPool

variable {segments : SegmentPool} {lock : Lock} {owner : String} {store : Store}

def Holds (segments : SegmentPool) (store : Store) (id : SegmentId) (owner : String) : Prop :=
  ∃ row ∈ store.rows segments.pool, row.hasId (segments.pool.scopeOf none) id.val = true ∧ row.owner = owner

def drawn (segments : SegmentPool) (owner : String) (store : Store) : Store :=
  store.act segments.pool ⟨.free, none, segments.ranges, .allocate owner⟩

@[simp] theorem bindings_drawn : (segments.drawn owner store).bindings = store.bindings := Store.bindings_act

theorem store_sync : ((segments.sync lock).run store).2 =
    store.act segments.pool ⟨lock, none, segments.ranges, .sync⟩ :=
  StoreM.store_onPool fun _ => (Pool.snd_perform (fun _ => none)).symm

theorem run_sync_of_empty (unscoped : segments.pool.isScoped = false) (empty : store.rows segments.pool = []) :
    (segments.sync .free).run store = (.ok ⟨segments.ranges.ids.length, 0, 0⟩,
      store.setRows segments.pool (segments.ranges.ids.map fun id : Nat => ⟨none, id, ""⟩)) := by
  unfold sync
  rw [StoreM.run_onPool, empty, Pool.sync_nil (Pool.admits_of_unscoped unscoped), Pool.scopeOf_of_unscoped unscoped]

theorem store_allocate : ((segments.allocate lock owner).run store).2 =
    store.act segments.pool ⟨lock, none, segments.ranges, .allocate owner⟩ := by
  unfold allocate
  rw [StoreM.store_bind_ofExcept]
  exact StoreM.store_onPool fun _ => (Pool.snd_perform some).symm

theorem store_release : ((segments.release lock owner).run store).2 =
    store.act segments.pool ⟨lock, none, segments.ranges, .release owner⟩ := by
  unfold release
  rw [StoreM.store_bind_ofExcept]
  exact StoreM.store_onPool fun _ => (Pool.snd_perform (fun _ => none)).symm

theorem store_releaseId {id : SegmentId} : ((segments.releaseId lock id).run store).2 =
    store.act segments.pool ⟨lock, none, segments.ranges, .releaseId id.val⟩ :=
  StoreM.store_onPool fun _ => (Pool.snd_perform (fun _ => none)).symm

theorem store_reserve {id : SegmentId} : ((segments.reserve lock id owner).run store).2 =
    store.act segments.pool ⟨lock, none, segments.ranges, .reserve id.val owner⟩ := by
  refine StoreM.store_onPool fun rows => ?_
  simp only [Pool.perform]
  cases segments.pool.reserve lock none id.val owner rows <;> rfl

theorem segment_eq_ok {id : Nat} {segment : SegmentId} :
    segments.segment id = .ok segment ↔ segment.val = id := by
  rw [← SegmentId.ofNat?_eq_some_iff]
  unfold SegmentPool.segment
  cases SegmentId.ofNat? id <;> simp

theorem holds_of_allocate {id : SegmentId} {after : Store}
    (done : (segments.allocate lock owner).run store = (.ok id, after)) : segments.Holds after id owner := by
  unfold allocate at done
  rw [StoreM.run_bind, StoreM.run_onPool] at done
  cases claimed : segments.pool.allocate lock none segments.ranges owner (store.rows segments.pool) with
  | error e =>
      rw [claimed] at done
      cases done
  | ok answer =>
      rw [claimed] at done
      obtain ⟨checked, rfl⟩ := Prod.mk.inj done
      obtain ⟨row, member, has, owned⟩ := Pool.owned_of_allocateWithin claimed
      refine ⟨row, by rwa [Store.rows_setRows], ?_, owned⟩
      rwa [segment_eq_ok.mp checked]

end SegmentPool

namespace BorderPool

theorem vlan_eq_ok {id : Nat} {vlan : VlanId} : BorderPool.vlan id = .ok vlan ↔ vlan.val = id := by
  rw [← VlanId.ofNat?_eq_some_iff]
  unfold BorderPool.vlan
  cases VlanId.ofNat? id <;> simp

variable {border : BorderPool} {lock : Lock} {switch owner : String} {store : Store}

theorem store_allocate : ((border.allocate lock switch owner).run store).2 =
    store.act .borderVlan ⟨lock, some switch, border.rangesOf switch, .allocate owner⟩ := by
  unfold allocate
  rw [StoreM.store_bind_ofExcept]
  exact StoreM.store_onPool fun _ => (Pool.snd_perform some).symm

theorem store_release : ((border.release lock switch owner).run store).2 =
    store.act .borderVlan ⟨lock, some switch, border.rangesOf switch, .release owner⟩ := by
  unfold release
  rw [StoreM.store_bind_ofExcept]
  exact StoreM.store_onPool fun _ => (Pool.snd_perform (fun _ => none)).symm

end BorderPool
end OverlayFabric
