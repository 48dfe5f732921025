import OverlayFabric.Proofs.Synchronizer.Reachable

/-!
The stores that come of whatever was asked for: the allocators, the binding table and the handlers, each
under any configuration that passes its check and with other writers about. Their pools are sound, and on
no border leaf does anybody own two VLANs.
-/

namespace OverlayFabric

structure Store.Tidy (store : Store) : Prop where
  pools : ∀ pool : Pool, pool.Sound (store.rows pool)
  single : Pool.borderVlan.Single store.border

/-- A proper operation on a pool, which reserves nothing on a border leaf, or another table of bindings. -/
inductive Store.Orderly (before : Store) : Store → Prop where
  | act {pool : Pool} {op : Pool.Operation} (proper : pool.Proper op)
      (granted : pool = .borderVlan → ∀ id owner, op.action ≠ .reserve id owner) : Orderly before (before.act pool op)
  | rebound (bindings : Bindings) : Orderly before { before with bindings }

variable {ω α : Type} {before after store : Store} {allocators : Allocators} {ranges : PoolRanges} {kept : String → Prop}
  {action : StoreM α}

namespace Store

theorem tidy_empty : ({} : Store).Tidy := ⟨sound_empty.pools, fun a member => by cases member⟩

theorem Tidy.orderly (tidy : before.Tidy) (orderly : before.Orderly after) : after.Tidy := by
  cases orderly with
  | @act pool op proper granted =>
      refine ⟨pools_act tidy.pools proper, ?_⟩
      by_cases border : pool = .borderVlan
      · subst border
        exact tidy.single.after (tidy.pools .borderVlan).distinct proper.admits (granted rfl)
      · have untouched : (before.act pool op).rows .borderVlan = before.rows .borderVlan :=
          rows_act_of_ne (Ne.symm border)
        have border : (before.act pool op).border = before.border := untouched
        rw [border]
        exact tidy.single
  | rebound bindings => exact ⟨fun pool => rows_withBindings ▸ tidy.pools pool, tidy.single⟩

theorem Tidy.wrought (tidy : before.Tidy) (wrought : Wrought Orderly before after) : after.Tidy := by
  induction wrought with
  | refl => exact tidy
  | tail _ step ih => exact ih.orderly step

end Store

theorem Allocators.Acts.orderly (proper : ranges.Proper) (acts : (Allocators.ofRanges ranges).Acts kept before after) :
    before.Orderly after := by
  obtain ⟨pool, op, does, rfl⟩ := acts
  refine .act (does.proper proper) fun border => ?_
  cases does with
  | l2 => cases border
  | l3 => cases border
  | border _ _ _ granted => exact granted

theorem StoreM.works_onBindings {f : Bindings → Except StoreError (α × Bindings)} :
    (StoreM.onBindings f).Works Store.Orderly := by
  intro store
  unfold run onBindings
  cases f store.bindings with
  | ok answer => exact .single (.rebound answer.2)
  | error e => exact .refl

/-- What the allocators and the binding table can be asked to do, under whatever lock. -/
inductive Allocators.Offers (allocators : Allocators) : {α : Type} → StoreM α → Prop where
  | read {α : Type} (f : Store → Except StoreError α) : Offers allocators (.read f)
  | syncSegments {segments : SegmentPool} (ours : segments = allocators.l2 ∨ segments = allocators.l3) (lock : Lock) :
      Offers allocators (segments.sync lock)
  | allocateSegment {segments : SegmentPool} (ours : segments = allocators.l2 ∨ segments = allocators.l3) (lock : Lock)
      (owner : String) : Offers allocators (segments.allocate lock owner)
  | releaseSegment {segments : SegmentPool} (ours : segments = allocators.l2 ∨ segments = allocators.l3) (lock : Lock)
      (owner : String) : Offers allocators (segments.release lock owner)
  | reserveSegment {segments : SegmentPool} (ours : segments = allocators.l2 ∨ segments = allocators.l3) (lock : Lock)
      (id : SegmentId) (owner : String) : Offers allocators (segments.reserve lock id owner)
  | releaseSegmentId {segments : SegmentPool} (ours : segments = allocators.l2 ∨ segments = allocators.l3) (lock : Lock)
      (id : SegmentId) : Offers allocators (segments.releaseId lock id)
  | syncBorder (lock : Lock) : Offers allocators (allocators.border.sync lock)
  | allocateVlan (lock : Lock) (switch owner : String) : Offers allocators (allocators.border.allocate lock switch owner)
  | releaseVlan (lock : Lock) (switch owner : String) : Offers allocators (allocators.border.release lock switch owner)
  | upsert (lock : Lock) (switch subnet : String) (vlan : VlanId) (l2 : SegmentId) :
      Offers allocators (.onBindings (·.upsert lock switch subnet vlan l2))
  | mark (lock : Lock) (switch subnet : String) : Offers allocators (.onBindings (·.mark lock switch subnet))
  | attach (lock : Lock) (switch subnet router : String) (l3 : SegmentId) :
      Offers allocators (.onBindings (·.attach lock switch subnet router l3))
  | detach (lock : Lock) (switch subnet : String) : Offers allocators (.onBindings (·.detach lock switch subnet))
  | remove (lock : Lock) (switch subnet : String) : Offers allocators (.onBindings (·.remove lock switch subnet))

theorem SegmentPool.orderly {segments : SegmentPool} {lock : Lock} {asked : Pool.Action} (proper : ranges.Proper)
    (ours : segments = (Allocators.ofRanges ranges).l2 ∨ segments = (Allocators.ofRanges ranges).l3)
    (valid : ∀ id owner, asked = .reserve id owner → ∃ segment : SegmentId, segment.val = id) :
    before.Orderly (before.act segments.pool ⟨lock, none, segments.ranges, asked⟩) := by
  rcases ours with rfl | rfl
  · refine .act ⟨Pool.admits_of_unscoped rfl, proper.l2, fun id owner same => ?_⟩ nofun
    obtain ⟨segment, rfl⟩ := valid id owner same
    exact segment.named
  · refine .act ⟨Pool.admits_of_unscoped rfl, proper.l3, fun id owner same => ?_⟩ nofun
    obtain ⟨segment, rfl⟩ := valid id owner same
    exact segment.named

theorem Allocators.Offers.works (proper : ranges.Proper) (offers : (Allocators.ofRanges ranges).Offers action) :
    action.Works Store.Orderly := by
  have acts {β : Type} {action : StoreM β} (works : action.Works ((Allocators.ofRanges ranges).Acts fun _ => False)) :
      action.Works Store.Orderly := works.mono fun _ _ => Acts.orderly proper
  cases offers with
  | read => exact StoreM.works_read
  | syncSegments ours lock =>
      exact StoreM.works_step fun store => SegmentPool.store_sync ▸ SegmentPool.orderly proper ours nofun
  | allocateSegment ours lock owner =>
      exact StoreM.works_step fun store => SegmentPool.store_allocate ▸ SegmentPool.orderly proper ours nofun
  | releaseSegment ours lock owner =>
      exact StoreM.works_step fun store => SegmentPool.store_release ▸ SegmentPool.orderly proper ours nofun
  | reserveSegment ours lock id owner =>
      refine StoreM.works_step fun store => SegmentPool.store_reserve ▸ SegmentPool.orderly proper ours fun _ _ same => ?_
      cases same
      exact ⟨id, rfl⟩
  | releaseSegmentId ours lock id =>
      exact StoreM.works_step fun store => SegmentPool.store_releaseId ▸ SegmentPool.orderly proper ours nofun
  | syncBorder => exact acts Synchronizer.works_syncBorder
  | allocateVlan => exact acts Synchronizer.works_allocateBorder
  | releaseVlan => exact acts Synchronizer.works_releaseBorder
  | upsert | mark | attach | detach | remove => exact StoreM.works_onBindings

namespace Synchronizer

section Leaves

variable {sync : Synchronizer ω} {port : Port} {segments : PortSegments} {subnet : Subnet} {binding : Binding}
  {interface : RouterInterface} {gateway : Option GatewayCidr}

theorem works_removeBinding {switch subnet : String} : Task.Works Store.Orderly (sync.removeBinding switch subnet) :=
  Task.works_bind (Task.works_store fun _ => StoreM.works_onBindings) fun _ => Task.works_pure

theorem works_subnetOf : Task.Works Store.Orderly (sync.subnetOf port) :=
  Task.works_bind Task.works_ask fun _ => Task.works_pure

theorem works_routedElsewhere {switch router subnet : String} :
    Task.Works Store.Orderly (sync.routedElsewhere switch router subnet) :=
  Task.works_bind Task.works_read fun _ => Task.works_pure

theorem works_configureL2 {leaf : LeafSwitch} {created : Bool} :
    Task.Works Store.Orderly (sync.configureL2 leaf port subnet binding created) := by
  unfold configureL2
  split
  · exact Task.works_pure
  · refine Task.works_bind (Task.works_attempt Task.works_send) fun result => ?_
    split
    · split
      · exact Task.works_bind works_removeBinding fun _ => Task.works_throw
      · exact Task.works_throw
    · exact Task.works_bind (Task.works_store fun _ => StoreM.works_onBindings) fun _ => Task.works_pure

theorem works_retractInterface {leaf : LeafSwitch} :
    Task.Works Store.Orderly (sync.retractInterface port subnet binding leaf) := by
  unfold retractInterface
  split
  · exact Task.works_bind works_routedElsewhere fun _ => Task.works_ignore Task.works_send
  · exact Task.works_pure

theorem works_unconfigureLeaf {leaf : LeafSwitch} : Task.Works Store.Orderly (sync.unconfigureLeaf port subnet leaf) := by
  unfold unconfigureLeaf isStillUsed
  refine Task.works_bind (Task.works_bind Task.works_ask fun _ => Task.works_pure) fun used => ?_
  split
  · exact Task.works_pure
  · refine Task.works_bind Task.works_read fun found => ?_
    split
    · refine Task.works_bind works_retractInterface fun _ => ?_
      split
      · exact Task.works_bind (Task.works_ignore Task.works_send) fun _ => works_removeBinding
      · exact works_removeBinding
    · exact Task.works_pure

theorem works_unconfigure : Task.Works Store.Orderly (sync.unconfigure port segments) := by
  unfold unconfigure
  split
  · exact Task.works_pure
  · refine Task.works_bind works_subnetOf fun found => ?_
    split
    · exact Task.works_forAll fun _ => works_unconfigureLeaf
    · exact Task.works_pure

theorem works_rollbackAttach {subnet : String} {attached : List VrfRequest} :
    Task.Works Store.Orderly (sync.rollbackAttach subnet attached) := by
  induction attached with
  | nil => exact Task.works_pure
  | cons request earlier ih =>
      unfold rollbackAttach
      refine Task.works_bind (Task.works_ignore Task.works_send) fun _ => ?_
      exact Task.works_bind (Task.works_store fun _ => StoreM.works_onBindings) fun _ => ih

theorem works_attachEach {l3 : SegmentId} {attached : List VrfRequest} {bindings : List Binding} :
    Task.Works Store.Orderly (sync.attachEach interface l3 gateway attached bindings) := by
  induction bindings generalizing attached with
  | nil => exact Task.works_pure
  | cons binding rest ih =>
      unfold attachEach
      split
      · exact ih
      · refine Task.works_bind works_routedElsewhere fun vrfExists => ?_
        refine Task.works_bind (Task.works_attempt Task.works_send) fun result => ?_
        split
        · exact Task.works_bind works_rollbackAttach fun _ => Task.works_throw
        · exact Task.works_bind (Task.works_store fun _ => StoreM.works_onBindings) fun _ => ih

theorem works_detachBinding : Task.Works Store.Orderly (sync.detachBinding interface gateway binding) := by
  unfold detachBinding
  split
  · exact Task.works_pure
  · split
    · exact Task.works_pure
    · refine Task.works_bind works_routedElsewhere fun elsewhere => ?_
      refine Task.works_bind (Task.works_ignore Task.works_send) fun _ => ?_
      exact Task.works_bind (Task.works_store fun _ => StoreM.works_onBindings) fun _ => Task.works_pure

theorem works_removeInterface : Task.Works Store.Orderly (sync.removeInterface interface) := by
  unfold removeInterface
  refine Task.works_bind (Task.works_attempt Task.works_ask) fun answer => ?_
  have others (gateway : Option GatewayCidr) : Task.Works Store.Orderly (do
      let bindings ← .store sync.outside fun _ => .read (·.bindings.onSubnet interface.subnetId)
      Task.forAll (sync.detachBinding interface gateway) bindings) :=
    Task.works_bind Task.works_read fun _ => Task.works_forAll fun _ => works_detachBinding
  split <;> exact Task.works_bind Task.works_pure fun gateway => others gateway

variable (draws : ∀ lock owner, (sync.allocators.l3.allocate lock owner).Works Store.Orderly)
include draws

theorem works_attachInterface : Task.Works Store.Orderly (sync.attachInterface binding interface subnet) := by
  unfold attachInterface
  refine Task.works_bind (Task.works_store fun lock => draws lock _) fun l3 => ?_
  refine Task.works_bind works_routedElsewhere fun vrfExists => Task.works_bind Task.works_send fun _ => ?_
  exact Task.works_bind (Task.works_store fun _ => StoreM.works_onBindings) fun _ => Task.works_pure

theorem works_attachLeaf {pushed : Option L2Request} {interface : Option RouterInterface} :
    Task.Works Store.Orderly (sync.attachLeaf subnet binding pushed interface) := by
  unfold attachLeaf
  split
  · exact Task.works_pure
  · split
    · exact Task.works_pure
    · refine Task.works_bind (Task.works_attempt (works_attachInterface draws)) fun result => ?_
      split
      · exact Task.works_pure
      · split
        · exact Task.works_throw
        · refine Task.works_bind (Task.works_ignore Task.works_send) fun _ => ?_
          exact Task.works_bind works_removeBinding fun _ => Task.works_throw

theorem works_configureLeaves {interface : Option RouterInterface} {leaves : List LeafSwitch} :
    Task.Works Store.Orderly (sync.configureLeaves port segments subnet interface leaves) := by
  induction leaves with
  | nil => exact Task.works_pure
  | cons leaf rest ih =>
      unfold configureLeaves configureLeaf
      refine Task.works_bind (Task.works_bind (Task.works_store fun _ => StoreM.works_onBindings) fun created => ?_) fun _ => ih
      refine Task.works_bind Task.works_read fun found => ?_
      split
      · exact Task.works_bind works_configureL2 fun pushed => works_attachLeaf draws
      · exact Task.works_throw

theorem works_configure : Task.Works Store.Orderly (sync.configure port segments) := by
  unfold configure
  split
  · exact Task.works_pure
  · refine Task.works_bind works_subnetOf fun found => ?_
    split
    · simp only
      split
      · exact Task.works_pure
      · exact Task.works_bind Task.works_ask fun _ => works_configureLeaves draws
    · exact Task.works_pure

theorem works_addInterface : Task.Works Store.Orderly (sync.addInterface interface) := by
  unfold addInterface
  refine Task.works_bind Task.works_read fun bindings => ?_
  split
  · exact Task.works_pure
  · refine Task.works_bind (Task.works_store fun lock => draws lock _) fun l3 => ?_
    exact Task.works_bind Task.works_ask fun subnet => works_attachEach

theorem works_onLeaves {event : Event} (onLeaves : event.isOnLeaves = true) :
    Task.Works Store.Orderly (sync.handle event) := by
  cases event with
  | portUpdated event =>
      refine Task.works_map ?_
      unfold updatePort
      split
      · split
        · exact works_unconfigure
        · exact Task.works_pure
      · split
        · split
          · exact works_configure draws
          · exact Task.works_pure
        · exact Task.works_pure
  | portDeleted event =>
      refine Task.works_map ?_
      unfold deletePort
      split
      · split
        · exact works_unconfigure
        · exact Task.works_pure
      · exact Task.works_pure
  | portBound port segments => exact Task.works_map (works_configure draws)
  | portUnbound port segments => exact Task.works_map works_unconfigure
  | interfaceAdded interface => exact Task.works_map (works_addInterface draws)
  | interfaceRemoved interface => exact Task.works_map works_removeInterface
  | _ => cases onLeaves

end Leaves

end Synchronizer

open Synchronizer in
/-- From the empty store on, each operation, each start and each event under a configuration that passes its
check, before any cloud and any fabric and with any other writers. -/
inductive Store.Attainable : Store → Prop where
  | empty : Attainable {}
  | called {α : Type} {configuration : Configuration} {ranges : PoolRanges} {action : StoreM α} {store : Store}
      (before : Attainable store) (checked : configuration.check = .ok ranges)
      (offered : (Allocators.ofRanges ranges).Offers action) : Attainable (action.run store).2
  | started {ω : Type} {configuration : Configuration} {ranges : PoolRanges} {outside : Outside ω} {site : Site ω}
      (before : Attainable site.store) (checked : configuration.check = .ok ranges) :
      Attainable ((ofConfiguration configuration ranges outside).start.run site).2.store
  | handled {ω : Type} {configuration : Configuration} {ranges : PoolRanges} {outside : Outside ω} {site : Site ω}
      (event : Event) (before : Attainable site.store) (checked : configuration.check = .ok ranges) :
      Attainable ((ofConfiguration configuration ranges outside).after event site).store

theorem Store.Reachable.attainable (reachable : store.Reachable) : store.Attainable := by
  induction reachable with
  | empty => exact .empty
  | started _ checked ih => exact .started ih checked
  | handled event _ checked _ ih => exact .handled event ih checked

namespace Synchronizer

variable {configuration : Configuration} {outside : Outside ω} {site : Site ω}

theorem tidy_start (proper : ranges.Proper) (tidy : site.store.Tidy) :
    ((ofConfiguration configuration ranges outside).start.run site).2.store.Tidy := by
  have works : Task.Works _ (ofConfiguration configuration ranges outside).start :=
    works_start fun (_ : String) => (id : False → False)
  exact tidy.wrought (works.mono (fun _ _ => Allocators.Acts.orderly proper) site)

theorem tidy_after {event : Event} (proper : ranges.Proper) (tidy : site.store.Tidy) :
    ((ofConfiguration configuration ranges outside).after event site).store.Tidy := by
  let sync : Synchronizer ω := ofConfiguration configuration ranges outside
  have orderly (before after : Store) (acts : sync.allocators.Acts (fun _ => False) before after) : before.Orderly after :=
    acts.orderly proper
  have works : Task.Works Store.Orderly (sync.handle event) := by
    cases onLeaves : event.isOnLeaves with
    | true => exact works_onLeaves (fun _ _ => works_allocateL3.mono orderly) onLeaves
    | false =>
        have spares : event.Spares fun _ => False := by cases event <;> simp [Event.Spares]
        exact (works_handle onLeaves spares).mono orderly
  exact tidy.wrought (works site)

end Synchronizer

theorem Store.Attainable.tidy (attainable : store.Attainable) : store.Tidy := by
  induction attainable with
  | empty => exact tidy_empty
  | called _ checked offered ih => exact ih.wrought (offered.works (Configuration.proper_of_check checked) _)
  | started _ checked ih => exact Synchronizer.tidy_start (Configuration.proper_of_check checked) ih
  | handled event _ checked ih => exact Synchronizer.tidy_after (Configuration.proper_of_check checked) ih

def Store.spent : Store where
  l2 := [⟨none, 5000, "net"⟩]
  l3 := [⟨none, 100, "router"⟩]
  border := [⟨some "10.0.0.8", 200, "router"⟩, ⟨some "10.0.0.9", 200, "router"⟩]

def PoolRanges.narrow : PoolRanges where
  l2 := .empty
  l3 := .empty
  border := { pairs := [("10.0.0.9", .only 200)] }

theorem Store.Attainable.spent : Store.spent.Attainable := by
  let sync : Synchronizer Unit := .ofConfiguration .bordered .bordered (.small ⟨"inner", "net", "10.1.0.0/24", none⟩ none)
  let pools : Allocators := .ofRanges .bordered
  let networked : Store := (sync.after (.tenantNetwork "net") ⟨.bordered, [], ()⟩).store
  have drawn : ((pools.l3.allocate .free "router").run ((pools.border.allocate .free "10.0.0.9" "router").run
      ((pools.border.allocate .free "10.0.0.8" "router").run networked).2).2).2 = .spent := by decide +kernel
  have before : networked.Attainable :=
    .handled (.tenantNetwork "net") Store.Reachable.bordered.attainable Configuration.check_bordered
  rw [← drawn]
  refine .called ?_ Configuration.check_bordered (.allocateSegment (Or.inr rfl) .free "router")
  refine .called ?_ Configuration.check_bordered (.allocateVlan .free "10.0.0.9" "router")
  exact .called before Configuration.check_bordered (.allocateVlan .free "10.0.0.8" "router")

end OverlayFabric
