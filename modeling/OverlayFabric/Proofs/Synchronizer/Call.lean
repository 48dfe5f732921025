import OverlayFabric.Proofs.Store.Fault
import OverlayFabric.Proofs.Synchronizer.Attainable

namespace OverlayFabric

inductive Layer where
  | l2
  | l3
  deriving DecidableEq, Repr

def Allocators.segments (allocators : Allocators) : Layer → SegmentPool
  | .l2 => allocators.l2
  | .l3 => allocators.l3

inductive StoreCall : Type → Type where
  | sync (layer : Layer) : StoreCall SyncReport
  | allocate (layer : Layer) (owner : String) : StoreCall SegmentId
  | release (layer : Layer) (owner : String) : StoreCall (Option SegmentId)
  | reserve (layer : Layer) (id : SegmentId) (owner : String) : StoreCall Unit
  | releaseId (layer : Layer) (id : SegmentId) : StoreCall Bool
  | find (layer : Layer) (owner : String) : StoreCall (Option SegmentId)
  | owners (layer : Layer) : StoreCall (List (SegmentId × String))
  | stats (layer : Layer) : StoreCall PoolStats
  | syncBorder : StoreCall (Keyed SyncReport)
  | allocateVlan (switch owner : String) : StoreCall VlanId
  | releaseVlan (switch owner : String) : StoreCall (Option VlanId)
  | findVlan (switch owner : String) : StoreCall (Option VlanId)
  | vlanOwners : StoreCall (List (String × VlanId × String))
  | vlansHeldBy (owner : String) : StoreCall (List (String × VlanId))
  | vlanStats (switch : String) : StoreCall PoolStats
  | upsert (switch subnet : String) (vlan : VlanId) (l2 : SegmentId) : StoreCall Bool
  | mark (switch subnet : String) : StoreCall Bool
  | attach (switch subnet router : String) (l3 : SegmentId) : StoreCall Bool
  | detach (switch subnet : String) : StoreCall Bool
  | remove (switch subnet : String) : StoreCall Bool
  | get (switch subnet : String) : StoreCall (Option Binding)
  | onSubnet (subnet : String) : StoreCall (List Binding)
  | ofRouter (switch router : String) : StoreCall (List Binding)
  | list : StoreCall (List Binding)

namespace StoreCall

variable {α : Type}

def perform (allocators : Allocators) (lock : Lock) : StoreCall α → StoreM α
  | .sync layer => (allocators.segments layer).sync lock
  | .allocate layer owner => (allocators.segments layer).allocate lock owner
  | .release layer owner => (allocators.segments layer).release lock owner
  | .reserve layer id owner => (allocators.segments layer).reserve lock id owner
  | .releaseId layer id => (allocators.segments layer).releaseId lock id
  | .find layer owner => (allocators.segments layer).find owner
  | .owners layer => (allocators.segments layer).owners
  | .stats layer => (allocators.segments layer).stats
  | .syncBorder => allocators.border.sync lock
  | .allocateVlan switch owner => allocators.border.allocate lock switch owner
  | .releaseVlan switch owner => allocators.border.release lock switch owner
  | .findVlan switch owner => BorderPool.find switch owner
  | .vlanOwners => BorderPool.owners
  | .vlansHeldBy owner => BorderPool.heldBy owner
  | .vlanStats switch => BorderPool.stats switch
  | .upsert switch subnet vlan l2 => .onBindings (·.upsert lock switch subnet vlan l2)
  | .mark switch subnet => .onBindings (·.mark lock switch subnet)
  | .attach switch subnet router l3 => .onBindings (·.attach lock switch subnet router l3)
  | .detach switch subnet => .onBindings (·.detach lock switch subnet)
  | .remove switch subnet => .onBindings (·.remove lock switch subnet)
  | .get switch subnet => .read (·.bindings.get switch subnet)
  | .onSubnet subnet => .read (·.bindings.onSubnet subnet)
  | .ofRouter switch router => .read (·.bindings.ofRouter switch router)
  | .list => .read (·.bindings.list)

def Contests : StoreCall α → Prop
  | .reserve .. => True
  | _ => False

theorem ours (allocators : Allocators) (layer : Layer) :
    allocators.segments layer = allocators.l2 ∨ allocators.segments layer = allocators.l3 := by
  cases layer
  · exact Or.inl rfl
  · exact Or.inr rfl

theorem offers (call : StoreCall α) (allocators : Allocators) (lock : Lock) :
    allocators.Offers (call.perform allocators lock) := by
  cases call with
  | sync layer => exact .syncSegments (ours allocators layer) lock
  | allocate layer owner => exact .allocateSegment (ours allocators layer) lock owner
  | release layer owner => exact .releaseSegment (ours allocators layer) lock owner
  | reserve layer id owner => exact .reserveSegment (ours allocators layer) lock id owner
  | releaseId layer id => exact .releaseSegmentId (ours allocators layer) lock id
  | syncBorder => exact .syncBorder lock
  | allocateVlan switch owner => exact .allocateVlan lock switch owner
  | releaseVlan switch owner => exact .releaseVlan lock switch owner
  | upsert switch subnet vlan l2 => exact .upsert lock switch subnet vlan l2
  | mark switch subnet => exact .mark lock switch subnet
  | attach switch subnet router l3 => exact .attach lock switch subnet router l3
  | detach switch subnet => exact .detach lock switch subnet
  | remove switch subnet => exact .remove lock switch subnet
  | _ => exact .read _

end StoreCall

structure Store.Legible (store : Store) : Prop where
  tidy : store.Tidy
  bindings : store.bindings.Legible

variable {α β : Type} {store before after : Store} {ranges : PoolRanges} {contested : Prop}

theorem Store.legible_empty : ({} : Store).Legible := ⟨tidy_empty, Bindings.legible_empty⟩

namespace StoreM

/-- From a legible store on the action leads to one, and fails for a sane reason if it does. -/
def Sane (contested : Prop) (action : StoreM α) : Prop :=
  ∀ store, store.Legible → (action.run store).2.Legible ∧ Result.Sane contested (action.run store).1

theorem sane_pure {value : α} : Sane contested (pure value) := fun _ legible => ⟨legible, Result.sane_ok⟩

theorem sane_bind {action : StoreM α} {next : α → StoreM β} (first : Sane contested action)
    (onward : ∀ value, Sane contested (next value)) : Sane contested (action >>= next) := by
  intro store legible
  obtain ⟨after, sane⟩ := first store legible
  rw [run_bind]
  rcases outcome : action.run store with ⟨error | value, mid⟩ <;> rw [outcome] at after sane
  · exact ⟨after, fun e failed => by cases failed; exact sane error rfl⟩
  · exact onward value mid after

theorem sane_mapM {f : α → StoreM β} {items : List α} (each : ∀ item, Sane contested (f item)) :
    Sane contested (items.mapM f) := by
  induction items with
  | nil => exact sane_pure
  | cons item rest ih =>
      rw [List.mapM_cons]
      exact sane_bind (each item) fun _ => sane_bind ih fun _ => sane_pure

theorem sane_read {f : Store → Except StoreError α} (reads : ∀ store, store.Legible → ∃ value, f store = .ok value) :
    Sane contested (.read f) := fun store legible => ⟨legible, Result.sane_of_ok (reads store legible)⟩

theorem legible_onBindings {f : Bindings → Except StoreError (α × Bindings)} (legible : store.Legible)
    (keeps : ∀ value left, f store.bindings = .ok (value, left) → left.Legible) :
    ((StoreM.onBindings f).run store).2.Legible := by
  unfold run onBindings
  cases done : f store.bindings with
  | error e => exact legible
  | ok answer => exact ⟨legible.tidy.orderly (.rebound answer.2), keeps answer.1 answer.2 done⟩

theorem sane_onBindings {f : Bindings → Except StoreError (α × Bindings)} (refused : Result.Sane contested (f store.bindings)) :
    Result.Sane contested ((StoreM.onBindings f).run store).1 := by
  unfold run onBindings
  cases done : f store.bindings with
  | error e => exact fun other failed => by cases failed; exact refused e done
  | ok answer => exact Result.sane_ok

end StoreM

theorem Allocators.Offers.bindings_legible {action : StoreM α} (offers : (Allocators.ofRanges ranges).Offers action)
    (legible : store.Legible) : (action.run store).2.bindings.Legible := by
  have acted {pool : Pool} {op : Pool.Operation} {left : Store} (acts : left = store.act pool op) :
      left.bindings.Legible := by
    rw [acts, Store.bindings_act]
    exact legible.bindings
  cases offers with
  | read f => exact legible.bindings
  | syncSegments => exact acted SegmentPool.store_sync
  | allocateSegment => exact acted SegmentPool.store_allocate
  | releaseSegment => exact acted SegmentPool.store_release
  | reserveSegment => exact acted SegmentPool.store_reserve
  | releaseSegmentId => exact acted SegmentPool.store_releaseId
  | syncBorder lock =>
      have works : ((Allocators.ofRanges ranges).border.sync lock).Works ((Allocators.ofRanges ranges).Acts fun _ => False) :=
        Synchronizer.works_syncBorder
      exact (works store).bindings ▸ legible.bindings
  | allocateVlan => exact acted BorderPool.store_allocate
  | releaseVlan => exact acted BorderPool.store_release
  | upsert lock switch subnet vlan l2 =>
      refine (StoreM.legible_onBindings legible fun value left done => ?_).bindings
      cases lock <;> cases done
      let fresh : Binding := ⟨store.bindings.next, switch, subnet, vlan, l2, false, none, none⟩
      exact legible.bindings.add ⟨fresh, nofun, rfl⟩
  | mark lock =>
      refine (StoreM.legible_onBindings legible fun value left done => ?_).bindings
      cases lock <;> cases done
      exact legible.bindings.marked
  | attach lock switch subnet router l3 =>
      refine (StoreM.legible_onBindings legible fun value left done => ?_).bindings
      cases lock <;> cases done
      exact legible.bindings.route (some l3)
  | detach lock =>
      refine (StoreM.legible_onBindings legible fun value left done => ?_).bindings
      cases lock <;> cases done
      exact legible.bindings.route none
  | remove lock =>
      refine (StoreM.legible_onBindings legible fun value left done => ?_).bindings
      cases lock <;> cases done
      exact legible.bindings.without

theorem Allocators.Offers.legible {action : StoreM α} (offers : (Allocators.ofRanges ranges).Offers action)
    (proper : ranges.Proper) (legible : store.Legible) : (action.run store).2.Legible :=
  ⟨legible.tidy.wrought (offers.works proper store), offers.bindings_legible legible⟩

theorem BorderPool.sane_syncEach (proper : ranges.Proper) {lock : Lock} {switches : List String} :
    StoreM.Sane contested ((Allocators.ofRanges ranges).border.syncEach lock switches) := by
  induction switches with
  | nil => exact StoreM.sane_pure
  | cons switch rest ih =>
      let op : Pool.Operation := ⟨lock, some switch, (Allocators.ofRanges ranges).border.rangesOf switch, .sync⟩
      refine StoreM.sane_bind (fun store legible => ⟨?_, ?_⟩) fun report => StoreM.sane_bind ih fun _ => StoreM.sane_pure
      · have ran : _ = store.act .borderVlan op := StoreM.store_onPool fun _ => (Pool.snd_perform fun _ => none).symm
        rw [ran]
        exact ⟨legible.tidy.orderly (.act ⟨fun _ => rfl, proper.border switch, nofun⟩ nofun), legible.bindings⟩
      · rw [StoreM.fst_onPool]
        exact (legible.tidy.pools .borderVlan).sane_sync.map _

namespace StoreCall

theorem sane_unscoped (layer : Layer) : ((Allocators.ofRanges ranges).segments layer).pool.isScoped = false := by
  cases layer <;> rfl

theorem sane_result (call : StoreCall α) (proper : ranges.Proper) (lock : Lock) (legible : store.Legible) :
    Result.Sane call.Contests ((call.perform (.ofRanges ranges) lock).run store).1 := by
  have sound (layer : Layer) := legible.tidy.pools ((Allocators.ofRanges ranges).segments layer).pool
  have border : Pool.borderVlan.Sound store.border := legible.tidy.pools .borderVlan
  cases call with
  | sync layer => exact SegmentPool.sane_sync (sound layer)
  | allocate layer owner => exact SegmentPool.sane_allocate (sound layer) (sane_unscoped layer)
  | release layer owner => exact SegmentPool.sane_release (sound layer)
  | reserve layer id owner => exact SegmentPool.sane_reserve trivial
  | releaseId layer id => exact SegmentPool.sane_releaseId
  | find layer owner =>
      obtain ⟨found, done⟩ := @SegmentPool.run_find _ _ owner (sane_unscoped layer) (sound layer)
      exact Result.sane_of_ok ⟨found, congrArg Prod.fst done⟩
  | owners layer => exact Result.sane_of_ok ⟨_, congrArg Prod.fst (SegmentPool.run_owners (sound layer))⟩
  | stats layer => exact Result.sane_ok
  | syncBorder =>
      refine (StoreM.sane_bind (StoreM.sane_read fun _ _ => ⟨_, rfl⟩) fun switches => ?_) store legible |>.2
      exact StoreM.sane_bind (BorderPool.sane_syncEach proper) fun _ => StoreM.sane_pure
  | allocateVlan switch owner => exact BorderPool.sane_allocate border
  | releaseVlan switch owner => exact BorderPool.sane_release border
  | findVlan switch owner => exact Result.sane_of_ok (BorderPool.find_ok border)
  | vlanOwners => exact Result.sane_of_ok ⟨_, congrArg Prod.fst (BorderPool.run_owners border)⟩
  | vlansHeldBy owner => exact Result.sane_of_ok (BorderPool.heldBy_ok border)
  | vlanStats switch => exact Result.sane_ok
  | upsert | mark | attach | detach | remove =>
      exact StoreM.sane_onBindings (Result.sane_claim.bind fun _ _ => Result.sane_ok)
  | get switch subnet =>
      rcases @Bindings.Legible.get _ switch subnet legible.bindings with ⟨_, read⟩ | ⟨_, _, _, read⟩
      · exact Result.sane_of_ok ⟨_, read⟩
      · exact Result.sane_of_ok ⟨_, read⟩
  | onSubnet subnet =>
      obtain ⟨found, read, _⟩ := legible.bindings.read (·.subnet == subnet)
      exact Result.sane_of_ok ⟨found, read⟩
  | ofRouter switch router =>
      obtain ⟨found, read, _⟩ := legible.bindings.read fun row => row.switch == switch && row.router == router
      exact Result.sane_of_ok ⟨found, read⟩
  | list =>
      obtain ⟨found, read, _⟩ := legible.bindings.read fun _ => true
      rw [List.filter_true] at read
      exact Result.sane_of_ok ⟨found, read⟩

theorem sane_perform (call : StoreCall α) (proper : ranges.Proper) {lock : Lock} (wants : call.Contests → contested) :
    StoreM.Sane contested (call.perform (.ofRanges ranges) lock) := by
  intro store legible
  refine ⟨(call.offers _ lock).legible proper legible, fun e failed => ?_⟩
  have sane := call.sane_result proper lock legible e failed
  cases e with
  | conflict pool reason => exact wants sane
  | _ => exact sane

end StoreCall

end OverlayFabric
