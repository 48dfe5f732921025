import Mathlib.Logic.Relation
import OverlayFabric.Proofs.Synchronizer.Outcome
import OverlayFabric.Proofs.Synchronizer.Run

/-!
What the handlers do to the tables: a sequence of steps of one kind, whatever the kind. Off the leaves
each step is an operation on a pool that the allocators may do, and the bindings stay.
-/

namespace OverlayFabric

def Store.Wrought (step : Store → Store → Prop) : Store → Store → Prop := Relation.ReflTransGen step

variable {step wider : Store → Store → Prop}

namespace StoreM

variable {α β : Type}

def Works (step : Store → Store → Prop) (action : StoreM α) : Prop :=
  ∀ store, Store.Wrought step store (action.run store).2

theorem works_pure {value : α} : Works step (pure value) := fun _ => .refl

theorem works_read {f : Store → Except StoreError α} : Works step (.read f) := fun _ => .refl

theorem works_step {action : StoreM α} (steps : ∀ store, step store (action.run store).2) : Works step action :=
  fun store => .single (steps store)

theorem Works.mono {action : StoreM α} (works : Works step action)
    (wide : ∀ before after, step before after → wider before after) : Works wider action := fun store => Relation.ReflTransGen.mono wide _ _ (works store)

theorem works_bind {action : StoreM α} {next : α → StoreM β} (first : Works step action)
    (onward : ∀ value, Works step (next value)) : Works step (action >>= next) := by
  intro store
  have began := first store
  rw [run_bind]
  rcases outcome : action.run store with ⟨error | value, after⟩
  · rwa [outcome] at began
  · rw [outcome] at began
    exact Relation.ReflTransGen.trans began (onward value after)

theorem works_mapM {f : α → StoreM β} {items : List α} (each : ∀ item, Works step (f item)) :
    Works step (items.mapM f) := by
  induction items with
  | nil => exact works_pure
  | cons item rest ih =>
      rw [List.mapM_cons]
      exact works_bind (each item) fun _ => works_bind ih fun _ => works_pure

end StoreM

namespace Task

variable {ω α β : Type} {outside : Outside ω}

def Works (step : Store → Store → Prop) (task : Task ω α) : Prop :=
  ∀ site, Store.Wrought step site.store (task.run site).2.store

variable {task : Task ω α}

theorem Works.mono (works : Works step task) (wide : ∀ before after, step before after → wider before after) :
    Works wider task := fun site => Relation.ReflTransGen.mono wide _ _ (works site)

theorem works_pure {value : α} : Works step (pure value : Task ω α) := fun _ => .refl

theorem works_throw {error : SyncError} : Works step (throw error : Task ω α) := fun _ => .refl

theorem works_bind {next : α → Task ω β} (first : Works step task) (onward : ∀ value, Works step (next value)) :
    Works step (task >>= next) := by
  intro site
  have began := first site
  rw [run_bind]
  rcases outcome : task.run site with ⟨error | value, mid⟩
  · rwa [outcome] at began
  · rw [outcome] at began
    exact Relation.ReflTransGen.trans began (onward value mid)

theorem works_map {f : α → β} (works : Works step task) : Works step (f <$> task) := by
  rw [map_eq_pure_bind]
  exact works_bind works fun _ => works_pure

theorem works_attempt (works : Works step task) : Works step (attempt task) := works

theorem works_ignore (works : Works step task) : Works step (ignore task) := works

theorem works_ask {query : Query α} : Works step (ask outside query) := by
  intro site
  unfold run ask
  rcases outside.ask query site.outside with ⟨answer | error, state⟩ <;> exact .refl

theorem works_send {call : Call} : Works step (send outside call) := by
  intro site
  unfold run send
  rcases outside.send call site.outside with ⟨answer | error, state⟩ <;> exact .refl

theorem works_store {action : Lock → StoreM α} (works : ∀ lock, (action lock).Works step) :
    Works step (store outside action) := by
  intro site
  have done := works (outside.lock site.outside) site.store
  unfold run store
  rcases outcome : (action (outside.lock site.outside)).run site.store with ⟨result | error, after⟩ <;>
    · rw [outcome] at done
      exact done

theorem works_read {f : Store → Except StoreError α} : Works step (store outside fun _ => .read f) :=
  works_store fun _ => StoreM.works_read

theorem works_forAll {items : List β} {task : β → Task ω Unit} (each : ∀ item, Works step (task item)) :
    Works step (forAll task items) := by
  induction items with
  | nil => exact works_pure
  | cons item rest ih =>
      refine works_bind (works_attempt (each item)) fun result => ?_
      cases result with
      | ok _ => exact ih
      | error e => exact works_bind (works_ignore ih) fun _ => works_throw

end Task

/-- What the handlers do to the pools. No identifier of layer 3 is given back that a kept owner may
have, and only identifiers of layer 2 are reserved. -/
inductive Allocators.Does (allocators : Allocators) (kept : String → Prop) : Pool → Pool.Operation → Prop where
  | l2 (lock : Lock) (action : Pool.Action)
      (valid : ∀ id owner, action = .reserve id owner → ∃ segment : SegmentId, segment.val = id := by simp) :
      Does allocators kept allocators.l2.pool ⟨lock, none, allocators.l2.ranges, action⟩
  | l3 (lock : Lock) (action : Pool.Action) (granted : ∀ id owner, action ≠ .reserve id owner := by simp)
      (spares : ∀ owner, kept owner → action ≠ .release owner ∧ ∀ id, action ≠ .releaseId id := by simp) :
      Does allocators kept allocators.l3.pool ⟨lock, none, allocators.l3.ranges, action⟩
  | border (lock : Lock) (switch : String) (action : Pool.Action)
      (granted : ∀ id owner, action ≠ .reserve id owner := by simp) :
      Does allocators kept .borderVlan ⟨lock, some switch, allocators.border.rangesOf switch, action⟩

def Allocators.Acts (allocators : Allocators) (kept : String → Prop) (before after : Store) : Prop :=
  ∃ pool op, allocators.Does kept pool op ∧ after = before.act pool op

theorem Store.Wrought.bindings {allocators : Allocators} {kept : String → Prop} {before after : Store}
    (wrought : Store.Wrought (allocators.Acts kept) before after) : after.bindings = before.bindings := by
  induction wrought with
  | refl => rfl
  | tail _ work ih =>
      obtain ⟨pool, op, _, rfl⟩ := work
      exact Store.bindings_act.trans ih

theorem StoreM.works_act {α : Type} {allocators : Allocators} {kept : String → Prop} {action : StoreM α} {pool : Pool}
    {op : Pool.Operation} (acts : ∀ store, (action.run store).2 = store.act pool op) (does : allocators.Does kept pool op) :
    Works (allocators.Acts kept) action :=
  works_step fun store => ⟨pool, op, does, acts store⟩

namespace Synchronizer

variable {ω : Type} {sync : Synchronizer ω} {kept : String → Prop}

section Store

variable {allocators : Allocators} {lock : Lock} {owner switch : String}

theorem works_allocateL3 : (allocators.l3.allocate lock owner).Works (allocators.Acts kept) :=
  StoreM.works_act (fun _ => SegmentPool.store_allocate) (.l3 lock _)

theorem works_releaseL3 (other : ¬ kept owner) : (allocators.l3.release lock owner).Works (allocators.Acts kept) := by
  refine StoreM.works_act (fun _ => SegmentPool.store_release) (.l3 lock _ (by simp) fun given kept => ?_)
  refine ⟨?_, by simp⟩
  rintro ⟨⟩
  exact other kept

theorem works_allocateL2 : (allocators.l2.allocate lock owner).Works (allocators.Acts kept) :=
  StoreM.works_act (fun _ => SegmentPool.store_allocate) (.l2 lock _)

theorem works_releaseL2 : (allocators.l2.release lock owner).Works (allocators.Acts kept) :=
  StoreM.works_act (fun _ => SegmentPool.store_release) (.l2 lock _)

theorem works_allocateBorder : (allocators.border.allocate lock switch owner).Works (allocators.Acts kept) :=
  StoreM.works_act (fun _ => BorderPool.store_allocate) (.border lock switch _)

theorem works_releaseBorder : (allocators.border.release lock switch owner).Works (allocators.Acts kept) :=
  StoreM.works_act (fun _ => BorderPool.store_release) (.border lock switch _)

theorem works_syncEach {switches : List String} :
    (allocators.border.syncEach lock switches).Works (allocators.Acts kept) := by
  induction switches with
  | nil => exact StoreM.works_pure
  | cons switch rest ih =>
      refine StoreM.works_bind ?_ fun _ => StoreM.works_bind ih fun _ => StoreM.works_pure
      exact StoreM.works_act (fun _ => StoreM.store_onPool fun _ => (Pool.snd_perform fun _ => none).symm)
        (.border lock switch .sync)

theorem works_syncBorder : (allocators.border.sync lock).Works (allocators.Acts kept) :=
  StoreM.works_bind StoreM.works_read fun _ => StoreM.works_bind works_syncEach fun _ => StoreM.works_pure

theorem works_syncPools : (allocators.syncAll lock).Works (allocators.Acts kept) := by
  unfold Allocators.syncAll
  refine StoreM.works_bind (StoreM.works_act (fun _ => SegmentPool.store_sync) (.l2 lock _)) fun _ => ?_
  refine StoreM.works_bind (StoreM.works_act (fun _ => SegmentPool.store_sync) (.l3 lock _)) fun _ => ?_
  exact StoreM.works_bind works_syncBorder fun _ => StoreM.works_pure

end Store

variable {router : Router} {gateway : ExternalGateway} {plan : GatewayPlan} {l2 l3 : SegmentId}

theorem works_planGateway : Task.Works (sync.allocators.Acts kept) (sync.planGateway gateway) := by
  unfold planGateway
  refine Task.works_bind Task.works_ask fun segment => ?_
  split
  · split
    · exact Task.works_pure
    · split
      · exact Task.works_pure
      · refine Task.works_bind Task.works_ask fun subnet => ?_
        split
        · exact Task.works_throw
        · split <;> exact Task.works_pure
  · exact Task.works_pure

theorem works_removeLeg {planned : Option GatewayPlan} {l2 l3 : Option SegmentId} {leaf : String × VlanId} :
    Task.Works (sync.allocators.Acts kept) (sync.removeLeg router gateway planned l2 l3 leaf) := by
  unfold removeLeg
  have released : Task.Works (sync.allocators.Acts kept) (do
      let _ ← Task.store sync.outside fun lock => sync.allocators.border.release lock leaf.1 router.id) :=
    Task.works_bind (Task.works_store fun _ => works_releaseBorder) fun _ => Task.works_pure
  split
  · refine Task.works_bind ?_ fun _ => released
    exact Task.works_bind (Task.works_ignore Task.works_send) fun _ => Task.works_ignore Task.works_send
  · exact released

theorem works_teardownGateway {planned : Option GatewayPlan} :
    Task.Works (sync.allocators.Acts kept) (sync.teardownGateway router gateway planned) := by
  unfold teardownGateway
  refine Task.works_bind Task.works_read fun l2 => Task.works_bind Task.works_read fun l3 => ?_
  refine Task.works_bind Task.works_read fun held => ?_
  refine Task.works_bind (Task.works_attempt (Task.works_forAll fun _ => works_removeLeg)) fun legs => ?_
  refine Task.works_bind (Task.works_store fun _ => works_releaseL2) fun _ => ?_
  split
  · exact Task.works_pure
  · exact Task.works_throw

theorem works_addLegs {borders : List (String × List String)} :
    Task.Works (sync.allocators.Acts kept) (sync.addLegs router gateway plan l2 l3 borders) := by
  induction borders with
  | nil => exact Task.works_pure
  | cons border rest ih =>
      unfold addLegs addLeg
      refine Task.works_bind (Task.works_attempt ?_) fun result => ?_
      · refine Task.works_bind (Task.works_store fun _ => works_allocateBorder) fun _ => ?_
        exact Task.works_bind Task.works_send fun _ => Task.works_send
      · split
        · exact ih
        · exact Task.works_bind works_teardownGateway fun _ => Task.works_throw

theorem works_addGateway : Task.Works (sync.allocators.Acts kept) (sync.addGateway router gateway) := by
  unfold addGateway
  refine Task.works_bind works_planGateway fun plan => ?_
  split
  · simp only
    split
    · exact Task.works_pure
    · refine Task.works_bind (Task.works_store fun _ => works_allocateL3) fun _ => ?_
      exact Task.works_bind (Task.works_store fun _ => works_allocateL2) fun _ => works_addLegs
  · exact Task.works_pure

theorem works_removeGateway : Task.Works (sync.allocators.Acts kept) (sync.removeGateway router gateway) := by
  unfold removeGateway
  refine Task.works_bind (Task.works_attempt works_planGateway) fun result => ?_
  split <;> exact works_teardownGateway

theorem works_createRouter (other : ¬ kept router.id) :
    Task.Works (sync.allocators.Acts kept) (sync.createRouter router) := by
  unfold createRouter
  refine Task.works_bind (Task.works_store fun _ => works_allocateL3) fun _ => ?_
  split
  · exact Task.works_pure
  · refine Task.works_bind (Task.works_attempt works_addGateway) fun result => ?_
    split
    · exact Task.works_pure
    · refine Task.works_bind (Task.works_ignore (Task.works_store fun _ => works_releaseL3 other)) fun _ => ?_
      exact Task.works_throw

theorem works_updateRouter {previous : Router} :
    Task.Works (sync.allocators.Acts kept) (sync.updateRouter previous router) := by
  unfold updateRouter
  split
  · exact works_addGateway
  · exact works_removeGateway
  · split
    · exact Task.works_pure
    · exact Task.works_bind works_removeGateway fun _ => works_addGateway
  · exact Task.works_pure

theorem works_deleteRouter (other : ¬ kept router.id) :
    Task.Works (sync.allocators.Acts kept) (sync.deleteRouter router) := by
  unfold deleteRouter
  have released : Task.Works (sync.allocators.Acts kept) (do
      let _ ← Task.store sync.outside fun lock => sync.allocators.l3.release lock router.id) :=
    Task.works_bind (Task.works_store fun _ => works_releaseL3 other) fun _ => Task.works_pure
  split
  · exact Task.works_bind works_removeGateway fun _ => released
  · exact released

theorem works_reserveProvider {network : String} {requested : Option UInt32} :
    Task.Works (sync.allocators.Acts kept) (sync.reserveProvider network requested) := by
  unfold reserveProvider
  split
  · exact Task.works_store fun _ => works_allocateL2
  · simp only
    split
    · exact fun _ => .refl
    · split
      · exact Task.works_throw
      · next segment _ =>
          refine Task.works_bind (Task.works_store fun lock => ?_) fun _ => Task.works_pure
          refine StoreM.works_act (fun _ => SegmentPool.store_reserve) (.l2 lock _ fun id owner asked => ?_)
          cases asked
          exact ⟨segment, rfl⟩

theorem works_validateSubnet {subnet : Subnet} :
    Task.Works (sync.allocators.Acts kept) (sync.validateSubnet subnet) := by
  unfold validateSubnet
  refine Task.works_bind Task.works_ask fun present => ?_
  split
  · exact Task.works_throw
  · exact Task.works_pure

theorem works_bindPort {port : Port} {segments : List NetworkSegment} :
    Task.Works (sync.allocators.Acts kept) (sync.bindPort port segments) := by
  unfold bindPort
  split
  · split
    · exact Task.works_throw
    · refine Task.works_bind Task.works_ask fun segment => ?_
      split
      · exact Task.works_pure
      · exact Task.works_throw
  · exact Task.works_pure

theorem works_reapSegments {segments : SegmentPool} {known : String → Bool} {owned : List (SegmentId × String)}
    (released : ∀ lock (id : SegmentId), (segments.releaseId lock id).Works step) :
    Task.Works step (sync.reapSegments segments known owned) := by
  induction owned with
  | nil => exact Task.works_pure
  | cons row rest ih =>
      unfold reapSegments
      split
      · exact ih
      · refine Task.works_bind (Task.works_store fun lock => released lock row.1) fun _ => ?_
        exact Task.works_bind ih fun _ => Task.works_pure

theorem works_reapBorder {known : String → Bool} {owned : List (String × VlanId × String)} :
    Task.Works (sync.allocators.Acts kept) (sync.reapBorder known owned) := by
  induction owned with
  | nil => exact Task.works_pure
  | cons row rest ih =>
      unfold reapBorder
      split
      · exact ih
      · refine Task.works_bind (Task.works_store fun lock => works_releaseBorder) fun _ => ?_
        exact Task.works_bind ih fun _ => Task.works_pure

theorem works_reap (none_kept : ∀ owner, ¬ kept owner) : Task.Works (sync.allocators.Acts kept) sync.reap := by
  unfold reap
  refine Task.works_bind Task.works_ask fun routers => Task.works_bind Task.works_ask fun networks => ?_
  refine Task.works_bind Task.works_read fun l3Owners => ?_
  refine Task.works_bind (works_reapSegments fun lock id => ?_) fun l3 => ?_
  · refine StoreM.works_act (fun _ => SegmentPool.store_releaseId) (.l3 lock _ (by simp) fun owner given => ?_)
    exact absurd given (none_kept owner)
  · refine Task.works_bind Task.works_read fun l2Owners => ?_
    refine Task.works_bind (works_reapSegments fun lock id => ?_) fun l2 => ?_
    · exact StoreM.works_act (fun _ => SegmentPool.store_releaseId) (.l2 lock _)
    · refine Task.works_bind Task.works_read fun borderOwners => ?_
      exact Task.works_bind works_reapBorder fun _ => Task.works_pure

theorem works_start (none_kept : ∀ owner, ¬ kept owner) : Task.Works (sync.allocators.Acts kept) sync.start := by
  unfold start syncAll
  refine Task.works_bind (Task.works_store fun _ => works_syncPools) fun _ => ?_
  exact Task.works_bind (works_reap none_kept) fun _ => Task.works_pure

theorem works_stats : Task.Works (sync.allocators.Acts kept) sync.stats := by
  unfold stats Allocators.stats
  refine Task.works_store fun _ => StoreM.works_bind (StoreM.works_mapM fun switch => ?_) fun border => ?_
  · exact StoreM.works_bind StoreM.works_read fun _ => StoreM.works_pure
  · refine StoreM.works_bind StoreM.works_read fun _ => StoreM.works_bind StoreM.works_read fun _ => ?_
    exact StoreM.works_bind StoreM.works_read fun _ => StoreM.works_pure

end Synchronizer

def Event.Spares (kept : String → Prop) : Event → Prop
  | .routerCreated router | .routerDeleted router => ¬ kept router.id
  | .reapWanted => ∀ owner, ¬ kept owner
  | _ => True

theorem Synchronizer.works_handle {ω : Type} {sync : Synchronizer ω} {kept : String → Prop} {event : Event}
    (offLeaves : event.isOnLeaves = false) (spares : event.Spares kept) :
    Task.Works (sync.allocators.Acts kept) (sync.handle event) := by
  cases event with
  | subnetProposed => exact Task.works_map works_validateSubnet
  | portOffered => exact Task.works_map works_bindPort
  | routerCreated => exact Task.works_map (works_createRouter spares)
  | routerUpdated => exact Task.works_map works_updateRouter
  | routerDeleted => exact Task.works_map (works_deleteRouter spares)
  | gatewayAdded => exact Task.works_map works_addGateway
  | gatewayRemoved => exact Task.works_map works_removeGateway
  | tenantNetwork => exact Task.works_map (Task.works_store fun _ => works_allocateL2)
  | providerNetwork => exact Task.works_map works_reserveProvider
  | segmentReleased =>
      refine Task.works_map (Task.works_store fun lock => ?_)
      exact StoreM.works_act (fun _ => SegmentPool.store_releaseId) (.l2 lock _)
  | externalProposed => exact Task.works_map fun _ => .refl
  | syncWanted => exact Task.works_map (Task.works_store fun _ => works_syncPools)
  | statsWanted => exact Task.works_map works_stats
  | reapWanted => exact Task.works_map (works_reap spares)
  | _ => cases offLeaves

end OverlayFabric
