import OverlayFabric.Proofs.Synchronizer.Call

namespace OverlayFabric

def SyncError.Sane (contested : Prop) : SyncError → Prop
  | .store e => e.Sane contested
  | .conflict _ _ => contested
  | _ => True

variable {ω α β : Type} {contested : Prop} {ranges : PoolRanges}

theorem SyncError.sane_ofStore {e : StoreError} (sane : e.Sane contested) : (SyncError.ofStore e).Sane contested := by
  cases e with
  | exhausted => trivial
  | _ => exact sane

theorem SyncError.sane_ofFabric {e : FabricError} : (SyncError.ofFabric e).Sane contested := by
  cases e <;> trivial

theorem Bindings.isSome_row?_upsert {bindings after : Bindings} {lock : Lock} {switch subnet : String} {vlan : VlanId}
    {l2 : SegmentId} {created : Bool} (done : bindings.upsert lock switch subnet vlan l2 = .ok (created, after)) :
    (after.row? switch subnet).isSome = true := by
  cases lock <;> cases done
  exact isSome_row?_add

namespace Task

variable {outside : Outside ω} {site : Site ω} {task : Task ω α} {next : α → Task ω β}

def Sane (contested : Prop) (task : Task ω α) : Prop :=
  ∀ site, site.store.Legible → Leads task site fun result after =>
    after.store.Legible ∧ ∀ e, result = .error e → e.Sane contested

theorem sane_pure {value : α} : Sane contested (pure value : Task ω α) := fun _ legible => ⟨legible, nofun⟩

theorem sane_throw {e : SyncError} (fine : e.Sane contested) : Sane contested (throw e : Task ω α) :=
  fun _ legible => ⟨legible, fun _ failed => by cases failed; exact fine⟩

theorem sane_throw_bind {e : SyncError} (fine : e.Sane contested) : Sane contested ((throw e : Task ω α) >>= next) :=
  fun _ legible => ⟨legible, fun _ failed => by cases failed; exact fine⟩

theorem sane_bind (first : Sane contested task) (onward : ∀ value, Sane contested (next value)) :
    Sane contested (task >>= next) := by
  intro site legible
  refine (first site legible).bind (fun value mid fine => onward value mid fine.1) fun e mid fine => ?_
  exact ⟨fine.1, fun _ failed => by cases failed; exact fine.2 e rfl⟩

theorem sane_ite {other : Task ω α} {test : Prop} [Decidable test] (yes : Sane contested task)
    (no : Sane contested other) : Sane contested (if test then task else other) := by
  split
  · exact yes
  · exact no

theorem sane_map {f : α → β} (sane : Sane contested task) : Sane contested (f <$> task) := by
  rw [map_eq_pure_bind]
  exact sane_bind sane fun _ => sane_pure

theorem sane_attempt {next : Except SyncError α → Task ω β} (first : Sane contested task)
    (succeeded : ∀ value, Sane contested (next (.ok value)))
    (failed : ∀ e : SyncError, e.Sane contested → Sane contested (next (.error e))) :
    Sane contested (attempt task >>= next) := by
  intro site legible
  refine leads_bind.mpr (leads_attempt.mpr ((first site legible).mono fun result mid fine => ?_))
  cases result with
  | ok value => exact succeeded value mid fine.1
  | error e => exact failed e (fine.2 e rfl) mid fine.1

theorem sane_ignore (sane : Sane contested task) : Sane contested (ignore task) :=
  fun site legible => ⟨(sane site legible).1, nofun⟩

theorem sane_ask {query : Query α} : Sane contested (ask outside query) :=
  fun _ legible => Leads.ask (fun _ _ _ => ⟨legible, nofun⟩) fun _ _ _ =>
    ⟨legible, fun _ failed => by cases failed; trivial⟩

theorem sane_send {call : Call} : Sane contested (send outside call) :=
  fun _ legible => Leads.send (fun _ => ⟨legible, nofun⟩) fun _ _ =>
    ⟨legible, fun _ failed => by cases failed; exact SyncError.sane_ofFabric⟩

theorem sane_store {action : Lock → StoreM α} (sane : ∀ lock, (action lock).Sane contested) :
    Sane contested (Task.store outside action) := by
  intro site legible
  obtain ⟨after, fine⟩ := sane (outside.lock site.outside) site.store legible
  refine leads_locked.mpr ⟨after, fun e failed => ?_⟩
  cases given : ((action (outside.lock site.outside)).run site.store).1 with
  | ok value =>
      rw [given] at failed
      cases failed
  | error cause =>
      rw [given] at failed
      cases failed
      exact SyncError.sane_ofStore (fine cause given)

theorem sane_forAll {items : List β} {task : β → Task ω Unit} (each : ∀ item, Sane contested (task item)) :
    Sane contested (forAll task items) := by
  induction items with
  | nil => exact sane_pure
  | cons item rest ih =>
      exact sane_attempt (each item) (fun _ => ih) fun e fine => sane_bind (sane_ignore ih) fun _ => sane_throw fine

end Task

namespace Synchronizer

open OverlayFabric.Task (Sane sane_pure sane_throw sane_throw_bind sane_bind sane_ite sane_map sane_attempt
  sane_ignore sane_ask sane_send sane_store sane_forAll Leads leads_locked leads_bind_of_run run_read)

variable {sync : Synchronizer ω} {port : Port} {segments : PortSegments} {subnet : Subnet} {binding : Binding}
  {interface : RouterInterface} {router : Router} {gateway : ExternalGateway} {leaf : LeafSwitch}

theorem sane_subnetOf : Sane contested (sync.subnetOf port) := sane_bind sane_ask fun _ => sane_pure

theorem sane_planGateway : Sane contested (sync.planGateway gateway) := by
  unfold planGateway
  refine sane_bind sane_ask fun segment => ?_
  split
  · split
    · exact sane_pure
    · split
      · exact sane_pure
      · refine sane_bind sane_ask fun subnet => ?_
        split
        · exact sane_throw trivial
        · split <;> exact sane_pure
  · exact sane_pure

theorem sane_validateSubnet : Sane contested (sync.validateSubnet subnet) := by
  unfold validateSubnet
  refine sane_bind sane_ask fun present => ?_
  split
  · exact sane_throw trivial
  · exact sane_pure

theorem sane_bindPort {offered : List NetworkSegment} : Sane contested (sync.bindPort port offered) := by
  unfold bindPort
  split
  · split
    · exact sane_throw trivial
    · refine sane_bind sane_ask fun segment => ?_
      split
      · exact sane_pure
      · exact sane_throw trivial
  · exact sane_pure

theorem sane_validateExternal {segment : NetworkSegment} : Sane contested (sync.validateExternal segment) := by
  refine fun site legible => ⟨legible, fun e failed => ?_⟩
  change checkExternal sync.allowedPhysnets segment = .error e at failed
  unfold checkExternal at failed
  split at failed
  · cases failed
    trivial
  · split at failed
    · cases failed
      trivial
    · split at failed
      · cases failed
        trivial
      · split at failed <;> cases failed
        trivial

theorem sane_reapSegments {pool : SegmentPool} {known : String → Bool} {owned : List (SegmentId × String)}
    (released : ∀ id : SegmentId, Sane contested (Task.store sync.outside fun lock => pool.releaseId lock id)) :
    Sane contested (sync.reapSegments pool known owned) := by
  induction owned with
  | nil => exact sane_pure
  | cons row rest ih =>
      unfold reapSegments
      exact sane_ite ih (sane_bind (released row.1) fun _ => sane_bind ih fun _ => sane_pure)

theorem leads_upsert {outside : Outside ω} {site : Site ω} {switch subnet : String} {vlan : VlanId} {l2 : SegmentId} :
    Leads (Task.store outside fun lock => .onBindings (·.upsert lock switch subnet vlan l2)) site fun result after =>
      ∀ created, result = .ok created → (after.store.bindings.row? switch subnet).isSome = true := by
  refine leads_locked.mpr fun created done => ?_
  simp only [StoreM.run, StoreM.onBindings] at done ⊢
  cases outcome : site.store.bindings.upsert (outside.lock site.outside) switch subnet vlan l2 with
  | error e =>
      rw [outcome] at done
      cases done
  | ok answer => exact Bindings.isSome_row?_upsert outcome

section Served

variable (served : sync.allocators = .ofRanges ranges) (proper : ranges.Proper)

include served proper

theorem sane_contesting (call : StoreCall α) (wants : call.Contests → contested) :
    Sane contested (Task.store sync.outside fun lock => call.perform sync.allocators lock) := by
  rw [served]
  exact sane_store fun _ => call.sane_perform proper wants

theorem sane_call (call : StoreCall α) (fair : call.Contests = False) :
    Sane contested (Task.store sync.outside fun lock => call.perform sync.allocators lock) :=
  sane_contesting served proper call fun wants => (fair ▸ wants).elim

theorem sane_removeBinding {switch subnet : String} : Sane contested (sync.removeBinding switch subnet) :=
  sane_bind (sane_call served proper (.remove switch subnet) rfl) fun _ => sane_pure

theorem sane_routedElsewhere {switch router subnet : String} :
    Sane contested (sync.routedElsewhere switch router subnet) :=
  sane_bind (sane_call served proper (.ofRouter switch router) rfl) fun _ => sane_pure

theorem sane_attachInterface : Sane contested (sync.attachInterface binding interface subnet) := by
  unfold attachInterface
  refine sane_bind (sane_call served proper (.allocate .l3 interface.routerId) rfl) fun l3 => ?_
  refine sane_bind (sane_routedElsewhere served proper) fun _ => sane_bind sane_send fun _ => ?_
  let call : StoreCall Bool := .attach binding.switch binding.subnet interface.routerId l3
  exact sane_bind (sane_call served proper call rfl) fun _ => sane_pure

theorem sane_configureL2 {created : Bool} : Sane contested (sync.configureL2 leaf port subnet binding created) := by
  unfold configureL2
  split
  · exact sane_pure
  · refine sane_attempt sane_send (fun _ => ?_) fun e fine => ?_
    · exact sane_bind (sane_call served proper (.mark leaf.ip subnet.id) rfl) fun _ => sane_pure
    · dsimp only
      split
      · exact sane_bind (sane_removeBinding served proper) fun _ => sane_throw fine
      · exact sane_throw fine

theorem sane_attachLeaf {pushed : Option L2Request} {interface : Option RouterInterface} :
    Sane contested (sync.attachLeaf subnet binding pushed interface) := by
  unfold attachLeaf
  split
  · exact sane_pure
  · split
    · exact sane_pure
    · refine sane_attempt (sane_attachInterface served proper) (fun _ => sane_pure) fun e fine => ?_
      dsimp only
      split
      · exact sane_throw fine
      · refine sane_bind (sane_ignore sane_send) fun _ => ?_
        exact sane_bind (sane_removeBinding served proper) fun _ => sane_throw fine

theorem sane_configureLeaf {interface : Option RouterInterface} :
    Sane contested (sync.configureLeaf port segments subnet interface leaf) := by
  intro site legible
  let call : StoreCall Bool := .upsert leaf.ip subnet.id segments.vlan segments.overlay
  have upserted : Leads (Task.store sync.outside fun lock => call.perform sync.allocators lock) site
      fun result after => (after.store.Legible ∧ ∀ e, result = .error e → e.Sane contested) ∧
        ∀ created, result = .ok created → (after.store.bindings.row? leaf.ip subnet.id).isSome = true :=
    ⟨sane_call served proper call rfl site legible, leads_upsert⟩
  refine upserted.bind (fun created mid fine => ?_) fun e mid fine => ⟨fine.1.1, fun _ failed => ?_⟩
  · obtain ⟨⟨legible, _⟩, present⟩ := fine
    rcases @Bindings.Legible.get _ leaf.ip subnet.id legible.bindings with ⟨absent, _⟩ | ⟨binding, _, _, read⟩
    · -- The row that was asked for cannot have vanished.
      have some := present created rfl
      rw [absent] at some
      cases some
    · refine (leads_bind_of_run (run_read read)).mpr ?_
      exact sane_bind (sane_configureL2 served proper) (fun _ => sane_attachLeaf served proper) mid legible
  · cases failed
    exact fine.1.2 e rfl

theorem sane_configureLeaves {interface : Option RouterInterface} {leaves : List LeafSwitch} :
    Sane contested (sync.configureLeaves port segments subnet interface leaves) := by
  induction leaves with
  | nil => exact sane_pure
  | cons leaf rest ih => exact sane_bind (sane_configureLeaf served proper) fun _ => ih

theorem sane_configure : Sane contested (sync.configure port segments) := by
  unfold configure
  split
  · exact sane_pure
  · refine sane_bind sane_subnetOf fun found => ?_
    split
    · dsimp only
      split
      · exact sane_pure
      · exact sane_bind sane_ask fun _ => sane_configureLeaves served proper
    · exact sane_pure

theorem sane_retractInterface : Sane contested (sync.retractInterface port subnet binding leaf) := by
  unfold retractInterface
  split
  · exact sane_bind (sane_routedElsewhere served proper) fun _ => sane_ignore sane_send
  · exact sane_pure

theorem sane_unconfigureLeaf : Sane contested (sync.unconfigureLeaf port subnet leaf) := by
  unfold unconfigureLeaf
  refine sane_bind (sane_bind sane_ask fun _ => sane_pure) fun used => ?_
  split
  · exact sane_pure
  · refine sane_bind (sane_call served proper (.get leaf.ip subnet.id) rfl) fun found => ?_
    split
    · refine sane_bind (sane_retractInterface served proper) fun _ => ?_
      split
      · exact sane_bind (sane_ignore sane_send) fun _ => sane_removeBinding served proper
      · exact sane_removeBinding served proper
    · exact sane_pure

theorem sane_unconfigure : Sane contested (sync.unconfigure port segments) := by
  unfold unconfigure
  split
  · exact sane_pure
  · refine sane_bind sane_subnetOf fun found => ?_
    split
    · exact sane_forAll fun _ => sane_unconfigureLeaf served proper
    · exact sane_pure

theorem sane_updatePort {event : PortEvent} : Sane contested (sync.updatePort event) := by
  unfold updatePort
  split
  · split
    · exact sane_unconfigure served proper
    · exact sane_pure
  · split
    · split
      · exact sane_configure served proper
      · exact sane_pure
    · exact sane_pure

theorem sane_deletePort {event : PortEvent} : Sane contested (sync.deletePort event) := by
  unfold deletePort
  split
  · split
    · exact sane_unconfigure served proper
    · exact sane_pure
  · exact sane_pure

theorem sane_rollbackAttach {subnet : String} {attached : List VrfRequest} :
    Sane contested (sync.rollbackAttach subnet attached) := by
  induction attached with
  | nil => exact sane_pure
  | cons request earlier ih =>
      refine sane_bind (sane_ignore sane_send) fun _ => ?_
      exact sane_bind (sane_call served proper (.detach request.switch subnet) rfl) fun _ => ih

theorem sane_attachEach {l3 : SegmentId} {cidr : Option GatewayCidr} {attached : List VrfRequest}
    {bindings : List Binding} : Sane contested (sync.attachEach interface l3 cidr attached bindings) := by
  induction bindings generalizing attached with
  | nil => exact sane_pure
  | cons binding rest ih =>
      unfold attachEach
      split
      · exact ih
      · refine sane_bind (sane_routedElsewhere served proper) fun vrfExists => ?_
        refine sane_attempt sane_send (fun _ => ?_) fun e fine => ?_
        · let call : StoreCall Bool := .attach binding.switch binding.subnet interface.routerId l3
          exact sane_bind (sane_call served proper call rfl) fun _ => ih
        · exact sane_bind (sane_rollbackAttach served proper) fun _ => sane_throw fine

theorem sane_addInterface : Sane contested (sync.addInterface interface) := by
  unfold addInterface
  refine sane_bind (sane_call served proper (.onSubnet interface.subnetId) rfl) fun bindings => ?_
  split
  · exact sane_pure
  · refine sane_bind (sane_call served proper (.allocate .l3 interface.routerId) rfl) fun l3 => ?_
    exact sane_bind sane_ask fun _ => sane_attachEach served proper

theorem sane_detachBinding {cidr : Option GatewayCidr} : Sane contested (sync.detachBinding interface cidr binding) := by
  unfold detachBinding
  split
  · exact sane_pure
  · split
    · exact sane_pure
    · refine sane_bind (sane_routedElsewhere served proper) fun _ => sane_bind (sane_ignore sane_send) fun _ => ?_
      exact sane_bind (sane_call served proper (.detach binding.switch binding.subnet) rfl) fun _ => sane_pure

theorem sane_removeInterface : Sane contested (sync.removeInterface interface) := by
  unfold removeInterface
  have others (cidr : Option GatewayCidr) : Sane contested (do
      let bindings ← .store sync.outside fun _ => .read (·.bindings.onSubnet interface.subnetId)
      Task.forAll (sync.detachBinding interface cidr) bindings) :=
    sane_bind (sane_call served proper (.onSubnet interface.subnetId) rfl) fun _ =>
      sane_forAll fun _ => sane_detachBinding served proper
  refine sane_attempt sane_ask (fun _ => ?_) fun _ _ => ?_
  · exact sane_bind sane_pure fun cidr => others cidr
  · exact sane_bind sane_pure fun cidr => others cidr

theorem sane_removeLeg {planned : Option GatewayPlan} {l2 l3 : Option SegmentId} {leg : String × VlanId} :
    Sane contested (sync.removeLeg router gateway planned l2 l3 leg) := by
  unfold removeLeg
  have released : Sane contested (do
      let _ ← Task.store sync.outside fun lock => sync.allocators.border.release lock leg.1 router.id) :=
    sane_bind (sane_call served proper (.releaseVlan leg.1 router.id) rfl) fun _ => sane_pure
  split
  · refine sane_bind ?_ fun _ => released
    exact sane_bind (sane_ignore sane_send) fun _ => sane_ignore sane_send
  · exact released

theorem sane_teardownGateway {planned : Option GatewayPlan} :
    Sane contested (sync.teardownGateway router gateway planned) := by
  unfold teardownGateway
  refine sane_bind (sane_call served proper (.find .l2 router.id) rfl) fun l2 => ?_
  refine sane_bind (sane_call served proper (.find .l3 router.id) rfl) fun l3 => ?_
  refine sane_bind (sane_call served proper (.vlansHeldBy router.id) rfl) fun held => ?_
  refine sane_attempt (sane_forAll fun _ => sane_removeLeg served proper) (fun _ => ?_) fun e fine => ?_
  · exact sane_bind (sane_call served proper (.release .l2 router.id) rfl) fun _ => sane_pure
  · exact sane_bind (sane_call served proper (.release .l2 router.id) rfl) fun _ => sane_throw fine

theorem sane_addLegs {plan : GatewayPlan} {l2 l3 : SegmentId} {borders : List (String × List String)} :
    Sane contested (sync.addLegs router gateway plan l2 l3 borders) := by
  induction borders with
  | nil => exact sane_pure
  | cons border rest ih =>
      unfold addLegs addLeg
      refine sane_attempt ?_ (fun _ => ih) fun e fine => ?_
      · refine sane_bind (sane_call served proper (.allocateVlan border.1 router.id) rfl) fun _ => ?_
        exact sane_bind sane_send fun _ => sane_send
      · exact sane_bind (sane_teardownGateway served proper) fun _ => sane_throw fine

theorem sane_addGateway : Sane contested (sync.addGateway router gateway) := by
  unfold addGateway
  refine sane_bind sane_planGateway fun plan => ?_
  split
  · dsimp only
    split
    · exact sane_pure
    · refine sane_bind (sane_call served proper (.allocate .l3 router.id) rfl) fun _ => ?_
      exact sane_bind (sane_call served proper (.allocate .l2 router.id) rfl) fun _ => sane_addLegs served proper
  · exact sane_pure

theorem sane_removeGateway : Sane contested (sync.removeGateway router gateway) := by
  unfold removeGateway
  exact sane_attempt sane_planGateway (fun _ => sane_teardownGateway served proper) fun _ _ =>
    sane_teardownGateway served proper

theorem sane_createRouter : Sane contested (sync.createRouter router) := by
  unfold createRouter
  refine sane_bind (sane_call served proper (.allocate .l3 router.id) rfl) fun l3 => ?_
  split
  · exact sane_pure
  · refine sane_attempt (sane_addGateway served proper) (fun _ => sane_pure) fun e fine => ?_
    exact sane_bind (sane_ignore (sane_call served proper (.release .l3 router.id) rfl)) fun _ => sane_throw fine

theorem sane_updateRouter {previous : Router} : Sane contested (sync.updateRouter previous router) := by
  unfold updateRouter
  split
  · exact sane_addGateway served proper
  · exact sane_removeGateway served proper
  · split
    · exact sane_pure
    · exact sane_bind (sane_removeGateway served proper) fun _ => sane_addGateway served proper
  · exact sane_pure

theorem sane_deleteRouter : Sane contested (sync.deleteRouter router) := by
  unfold deleteRouter
  have released : Sane contested (do
      let _ ← Task.store sync.outside fun lock => sync.allocators.l3.release lock router.id) :=
    sane_bind (sane_call served proper (.release .l3 router.id) rfl) fun _ => sane_pure
  split
  · exact sane_bind (sane_removeGateway served proper) fun _ => released
  · exact released

theorem sane_reserveProvider {network : String} {requested : Option UInt32}
    (wants : requested.isSome = true → contested) : Sane contested (sync.reserveProvider network requested) := by
  unfold reserveProvider
  split
  · exact sane_call served proper (.allocate .l2 network) rfl
  · dsimp only
    split
    · exact sane_throw_bind trivial
    · split
      · exact sane_throw trivial
      · next segment _ =>
          let call : StoreCall Unit := .reserve .l2 segment network
          exact sane_bind (sane_contesting served proper call fun _ => wants rfl) fun _ => sane_pure

theorem sane_syncAll : Sane contested sync.syncAll := by
  unfold syncAll Allocators.syncAll
  rw [served]
  refine sane_store fun lock => ?_
  refine StoreM.sane_bind ((StoreCall.sync .l2).sane_perform proper False.elim) fun l2 => ?_
  refine StoreM.sane_bind ((StoreCall.sync .l3).sane_perform proper False.elim) fun l3 => ?_
  exact StoreM.sane_bind (StoreCall.syncBorder.sane_perform proper False.elim) fun border => StoreM.sane_pure

theorem sane_stats : Sane contested sync.stats := by
  unfold stats Allocators.stats
  rw [served]
  refine sane_store fun lock => ?_
  refine StoreM.sane_bind (StoreM.sane_mapM fun switch => ?_) fun border => ?_
  · exact StoreM.sane_bind (StoreM.sane_read fun _ _ => ⟨_, rfl⟩) fun _ => StoreM.sane_pure
  · refine StoreM.sane_bind (StoreM.sane_read fun _ _ => ⟨_, rfl⟩) fun l2 => ?_
    refine StoreM.sane_bind (StoreM.sane_read fun _ _ => ⟨_, rfl⟩) fun l3 => ?_
    have listed : StoreM.Sane contested (StoreCall.list.perform (.ofRanges ranges) lock) :=
      StoreCall.list.sane_perform proper False.elim
    exact StoreM.sane_bind listed fun _ => StoreM.sane_pure

theorem sane_reapBorder {known : String → Bool} {owned : List (String × VlanId × String)} :
    Sane contested (sync.reapBorder known owned) := by
  induction owned with
  | nil => exact sane_pure
  | cons row rest ih =>
      unfold reapBorder
      refine sane_ite ih (sane_bind (sane_call served proper (.releaseVlan row.1 row.2.2) rfl) fun _ => ?_)
      exact sane_bind ih fun _ => sane_pure

theorem sane_reap : Sane contested sync.reap := by
  unfold reap
  refine sane_bind sane_ask fun routers => sane_bind sane_ask fun networks => ?_
  refine sane_bind (sane_call served proper (.owners .l3) rfl) fun _ => ?_
  refine sane_bind (sane_reapSegments fun id => sane_call served proper (.releaseId .l3 id) rfl) fun l3 => ?_
  refine sane_bind (sane_call served proper (.owners .l2) rfl) fun _ => ?_
  refine sane_bind (sane_reapSegments fun id => sane_call served proper (.releaseId .l2 id) rfl) fun l2 => ?_
  refine sane_bind (sane_call served proper .vlanOwners rfl) fun _ => ?_
  exact sane_bind (sane_reapBorder served proper) fun _ => sane_pure

theorem sane_start : Sane contested sync.start :=
  sane_bind (sane_syncAll served proper) fun _ => sane_bind (sane_reap served proper) fun _ => sane_pure

end Served

end Synchronizer

def Event.Contests : Event → Prop
  | .providerNetwork _ requested => requested.isSome = true
  | _ => False

namespace Synchronizer

variable {sync : Synchronizer ω}

theorem sane_handle (served : sync.allocators = .ofRanges ranges) (proper : ranges.Proper) (event : Event) :
    Task.Sane event.Contests (sync.handle event) := by
  cases event with
  | portUpdated => exact Task.sane_map (sane_updatePort served proper)
  | portDeleted => exact Task.sane_map (sane_deletePort served proper)
  | portBound => exact Task.sane_map (sane_configure served proper)
  | portUnbound => exact Task.sane_map (sane_unconfigure served proper)
  | subnetProposed => exact Task.sane_map sane_validateSubnet
  | portOffered => exact Task.sane_map sane_bindPort
  | routerCreated => exact Task.sane_map (sane_createRouter served proper)
  | routerUpdated => exact Task.sane_map (sane_updateRouter served proper)
  | routerDeleted => exact Task.sane_map (sane_deleteRouter served proper)
  | gatewayAdded => exact Task.sane_map (sane_addGateway served proper)
  | gatewayRemoved => exact Task.sane_map (sane_removeGateway served proper)
  | interfaceAdded => exact Task.sane_map (sane_addInterface served proper)
  | interfaceRemoved => exact Task.sane_map (sane_removeInterface served proper)
  | tenantNetwork network => exact Task.sane_map (sane_call served proper (.allocate .l2 network) rfl)
  | providerNetwork network requested => exact Task.sane_map (sane_reserveProvider served proper id)
  | segmentReleased _ segment => exact Task.sane_map (sane_call served proper (.releaseId .l2 segment) rfl)
  | externalProposed => exact Task.sane_map sane_validateExternal
  | syncWanted => exact Task.sane_map (sane_syncAll served proper)
  | statsWanted => exact Task.sane_map (sane_stats served proper)
  | reapWanted => exact Task.sane_map (sane_reap served proper)

end Synchronizer

theorem Store.Attainable.legible {store : Store} (attainable : store.Attainable) : store.Legible := by
  induction attainable with
  | empty => exact legible_empty
  | called _ checked offered ih => exact offered.legible (Configuration.proper_of_check checked) ih
  | started _ checked ih =>
      exact (@Synchronizer.sane_start _ False _ _ rfl (Configuration.proper_of_check checked) _ ih).1
  | handled event _ checked ih =>
      exact (Synchronizer.sane_handle rfl (Configuration.proper_of_check checked) event _ ih).1

open Synchronizer in
/-- Whatever was done to the tables, under whatever ranges they are opened again, nothing that is asked of
them next, directly or by a handler, finds anything corrupt in them; only a reservation meets a conflict. -/
theorem Store.never_corrupt {configuration : Configuration} {outside : Outside ω} {site : Site ω}
    (attainable : site.store.Attainable) (checked : configuration.check = .ok ranges) :
    let sync := ofConfiguration configuration ranges outside
    (∀ {α : Type} (call : StoreCall α) lock,
      Result.Sane call.Contests ((call.perform sync.allocators lock).run site.store).1) ∧
    (∀ e, (sync.start.run site).1 = .error e → e.Sane False) ∧
    ∀ event e, ((sync.handle event).run site).1 = .error e → e.Sane event.Contests := by
  have proper := Configuration.proper_of_check checked
  refine ⟨fun call lock => ?_, fun e failed => ?_, fun event e failed => ?_⟩
  · exact call.sane_result proper lock attainable.legible
  · exact (sane_start rfl proper site attainable.legible).2 e failed
  · exact (sane_handle rfl proper event site attainable.legible).2 e failed

theorem Store.never_corrupt_when_spent :
    let pools : Allocators := .ofRanges .bordered
    let allocated := (((StoreCall.allocate .l2 "other").perform pools .free).run .spent).1
    let reserved := (((StoreCall.reserve .l2 ⟨5000, by decide, by decide⟩ "other").perform pools .free).run .spent).1
    Store.spent.Attainable ∧ Configuration.bordered.check = .ok .bordered ∧
    allocated = .error (.exhausted "l2_segment" "global") ∧ Result.Sane False allocated ∧
    reserved = .error (.conflict "l2_segment" "id 5000 is already owned by net") ∧ Result.Sane True reserved := by
  intro pools allocated reserved
  have sane := @never_corrupt Unit .bordered .bordered (.small ⟨"inner", "net", "10.1.0.0/24", none⟩ none)
    ⟨.spent, [], ()⟩ Attainable.spent Configuration.check_bordered
  refine ⟨Attainable.spent, Configuration.check_bordered, by decide +kernel, ?_, by decide +kernel, ?_⟩
  · exact sane.1 (.allocate .l2 "other") .free
  · exact sane.1 (.reserve .l2 ⟨5000, by decide, by decide⟩ "other") .free

end OverlayFabric
