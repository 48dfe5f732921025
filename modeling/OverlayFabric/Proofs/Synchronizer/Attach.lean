import OverlayFabric.Proofs.Synchronizer.Move

namespace OverlayFabric

namespace Bindings

structure Carriers (bindings : Bindings) (subnet : String) (found : List Binding) : Prop where
  standing : ∀ binding ∈ found, binding.Settled ∧ binding.subnet = subnet ∧
    bindings.row? binding.switch subnet = some binding.row
  apart : found.Pairwise fun a b => a.switch ≠ b.switch

variable {bindings after : Bindings} {subnet : String} {found : List Binding}

theorem Settled.carriers (settled : bindings.Settled) :
    ∃ found, bindings.onSubnet subnet = .ok found ∧ bindings.Carriers subnet found := by
  obtain ⟨found, read, _, good⟩ := @Settled.onSubnet _ subnet settled
  refine ⟨found, read, fun binding member => ?_, ?_⟩
  · obtain ⟨known, here⟩ := (settled.mem_onSubnet read).mp ⟨binding, member, rfl⟩
    exact ⟨good binding member, here, row?_eq_some_iff.mpr ⟨known, rfl, here⟩⟩
  · exact (settled.ascending_onSubnet read).imp String.ne_of_lt

theorem Carriers.tail {binding : Binding} (carriers : bindings.Carriers subnet (binding :: found))
    (same : ∀ switch, switch ≠ binding.switch → after.row? switch subnet = bindings.row? switch subnet) :
    after.Carriers subnet found := by
  obtain ⟨first, apart⟩ := List.pairwise_cons.mp carriers.apart
  refine ⟨fun other member => ?_, apart⟩
  obtain ⟨good, named, present⟩ := carriers.standing other (.tail _ member)
  exact ⟨good, named, (same _ (first other member).symm).trans present⟩

end Bindings

namespace Synchronizer

variable {ω : Type} {sync : Synchronizer ω} {goal : Option (String × String)} {site : Site ω}

theorem leads_detachBinding (alone : sync.outside.Alone) (settled : site.store.bindings.Settled)
    {interface : RouterInterface} {gateway : Option GatewayCidr} {binding : Binding} (good : binding.Settled)
    (present : site.store.bindings.row? binding.switch binding.subnet = some binding.row) :
    Task.Leads (sync.detachBinding interface gateway binding) site fun _ after =>
      Moves sync goal site after ∧ ∀ switch, switch ≠ binding.switch → ∀ subnet,
        after.store.bindings.row? switch subnet = site.store.bindings.row? switch subnet := by
  unfold detachBinding
  by_cases routed : binding.router = some interface.routerId
  · obtain ⟨l3, segment⟩ := Option.isSome_iff_exists.mp (good.routed (by rw [routed]; rfl))
    rw [if_neg (by simp [Binding.isAttachedTo, routed])]
    simp only [segment]
    rw [Task.leads_bind_of_run (run_routedElsewhere settled)]
    refine Task.Leads.ignore_send fun accepted state => ?_
    rw [Task.leads_bind_of_run (Task.run_onBindings alone rfl), Task.leads_pure]
    refine ⟨.single (.detached l3 gateway accepted state present (Binding.row_of_routed routed) segment
      (Or.inl (good.ne_of_routed routed))), fun switch other subnet => ?_⟩
    exact (Bindings.row?_route switch subnet).trans (if_neg fun same => other same.1)
  · rw [if_pos (by simp [Binding.isAttachedTo, routed])]
    exact ⟨.refl, fun _ _ _ => rfl⟩

theorem walks_removeInterface (alone : sync.outside.Alone) (settled : site.store.bindings.Settled)
    {interface : RouterInterface} : Walks sync goal (sync.removeInterface interface) site := by
  unfold removeInterface
  have detached (gateway : Option GatewayCidr) (mid : Site ω) (here : mid.store.bindings.Settled) :
      Walks sync goal (do
        let bindings ← Task.store sync.outside fun _ => .read (·.bindings.onSubnet interface.subnetId)
        Task.forAll (sync.detachBinding interface gateway) bindings) mid := by
    obtain ⟨found, read, carriers⟩ := @Bindings.Settled.carriers _ interface.subnetId here
    refine (Task.leads_bind_of_run (Task.run_read read)).mpr ?_
    let keeps (rest : List Binding) (now : Site ω) : Prop :=
      now.store.bindings.Carriers interface.subnetId rest ∧ Moves sync goal mid now
    have each (binding : Binding) (rest : List Binding) (now : Site ω) (kept : keeps (binding :: rest) now) :
        Task.Leads (sync.detachBinding interface gateway binding) now fun _ after => keeps rest after := by
      obtain ⟨carriers, moves⟩ := kept
      obtain ⟨good, named, present⟩ := carriers.standing binding (.head _)
      rw [← named] at present
      have turn : Task.Leads (sync.detachBinding interface gateway binding) now fun _ after =>
          Moves sync goal now after ∧ ∀ switch, switch ≠ binding.switch → ∀ subnet,
            after.store.bindings.row? switch subnet = now.store.bindings.row? switch subnet :=
        leads_detachBinding alone (moves.settled here) good present
      exact turn.mono fun _ _ ⟨later, same⟩ =>
        ⟨carriers.tail fun switch other => same switch other _, moves.trans later⟩
    exact (Task.Leads.forAll each ⟨carriers, .refl⟩).mono fun _ _ => And.right
  refine Walks.attempt_ask fun result state => ?_
  have here : (site.heard state).store.bindings.Settled := settled
  cases result with
  | ok subnet => exact detached _ _ here
  | error e => exact detached none _ here

/-- The requests, on different switches, that the rows of the subnet were attached with. -/
structure Attached (bindings : Bindings) (interface : RouterInterface) (requests : List VrfRequest) : Prop where
  standing : ∀ request ∈ requests, ∃ binding l3 gateway, binding.subnet = interface.subnetId ∧
    bindings.row? binding.switch binding.subnet = some binding.row ∧
    binding.row.router = interface.routerId ∧ binding.l3 = some l3 ∧
    request = interfaceRequest binding interface l3 gateway
      (.forPush (bindings.routesElsewhere binding.switch interface.routerId binding.subnet))
  apart : requests.Pairwise fun a b => a.switch ≠ b.switch

theorem Attached.mono {bindings after : Bindings} {interface : RouterInterface} {requests : List VrfRequest}
    (attached : Attached bindings interface requests)
    (same : ∀ request ∈ requests, ∀ subnet,
      after.row? request.switch subnet = bindings.row? request.switch subnet) :
    Attached after interface requests := by
  refine ⟨fun request member => ?_, attached.apart⟩
  obtain ⟨binding, l3, gateway, named, present, routed, segment, rfl⟩ := attached.standing request member
  have rows (subnet : String) : after.row? binding.switch subnet = bindings.row? binding.switch subnet :=
    same _ member subnet
  refine ⟨binding, l3, gateway, named, (rows _).trans present, routed, segment, ?_⟩
  rw [Bindings.routesElsewhere_congr fun other _ => rows other]

theorem Attached.tail {bindings after : Bindings} {interface : RouterInterface} {request : VrfRequest}
    {earlier : List VrfRequest} (attached : Attached bindings interface (request :: earlier))
    (same : ∀ switch, switch ≠ request.switch → ∀ subnet,
      after.row? switch subnet = bindings.row? switch subnet) : Attached after interface earlier := by
  obtain ⟨first, apart⟩ := List.pairwise_cons.mp attached.apart
  have rest : Attached bindings interface earlier :=
    ⟨fun other member => attached.standing other (.tail _ member), apart⟩
  exact rest.mono fun other member => same _ (first other member).symm

theorem Attached.cons {bindings : Bindings} {interface : RouterInterface} {requests : List VrfRequest}
    (attached : Attached bindings interface requests) {binding : Binding} (l3 : SegmentId)
    (gateway : Option GatewayCidr) (named : binding.subnet = interface.subnetId)
    (present : bindings.row? binding.switch binding.subnet = some binding.row)
    (fresh : ∀ request ∈ requests, binding.switch ≠ request.switch) :
    Attached (bindings.route binding.switch binding.subnet interface.routerId l3.val) interface
      (interfaceRequest binding interface l3 gateway
        (.forPush (bindings.routesElsewhere binding.switch interface.routerId binding.subnet)) :: requests) := by
  have others : Attached (bindings.route binding.switch binding.subnet interface.routerId l3.val) interface requests :=
    attached.mono fun request member subnet => (Bindings.row?_route _ subnet).trans
      (if_neg fun same => fresh request member same.1.symm)
  refine ⟨fun request member => ?_, List.pairwise_cons.mpr ⟨fresh, attached.apart⟩⟩
  rcases List.mem_cons.mp member with rfl | member
  · refine ⟨binding.withRouter interface.routerId (some l3), l3, gateway, named, ?_, ?_, rfl, ?_⟩
    · refine (Bindings.row?_route binding.switch binding.subnet).trans ?_
      rw [if_pos ⟨rfl, rfl⟩, present, Binding.row_withRouter]
      rfl
    · rw [Binding.row_withRouter]
    · have same : (bindings.route binding.switch binding.subnet interface.routerId l3.val).routesElsewhere
          binding.switch interface.routerId binding.subnet =
            bindings.routesElsewhere binding.switch interface.routerId binding.subnet :=
        Bindings.routesElsewhere_congr fun other differ =>
          (Bindings.row?_route _ other).trans (if_neg fun here => differ here.2)
      have kept : (binding.withRouter interface.routerId (some l3)).subnet = binding.subnet := rfl
      have stays : (binding.withRouter interface.routerId (some l3)).switch = binding.switch := rfl
      rw [kept, stays, same]
      rfl
  · exact others.standing request member

theorem walks_rollbackAttach (alone : sync.outside.Alone) (settled : site.store.bindings.Settled)
    {interface : RouterInterface} (aimed : goal = some (interface.subnetId, interface.routerId))
    {requests : List VrfRequest} (attached : Attached site.store.bindings interface requests) :
    Walks sync goal (sync.rollbackAttach interface.subnetId requests) site := by
  induction requests generalizing site with
  | nil => exact walks_pure
  | cons request earlier ih =>
      unfold rollbackAttach
      obtain ⟨binding, l3, gateway, named, present, routed, segment, pushed⟩ := attached.standing request (.head _)
      -- What was created goes as the last interface, what was added to others as one of several.
      have back : request.withMode (if request.mode = .create then .delete else .detach) =
          interfaceRequest binding interface l3 gateway (.forRetract
            !site.store.bindings.routesElsewhere binding.switch interface.routerId binding.subnet) := by
        rw [pushed]
        cases site.store.bindings.routesElsewhere binding.switch interface.routerId binding.subnet <;> rfl
      have switch : request.switch = binding.switch := by rw [pushed]; rfl
      simp only [back]
      refine Task.Leads.ignore_send fun accepted state => ?_
      rw [Task.leads_bind_of_run (Task.run_onBindings alone rfl), switch]
      have detached : Moves sync goal site _ :=
        .single (.detached l3 gateway accepted state present routed segment (Or.inr ⟨_, aimed⟩))
      have rest : Attached (site.store.bindings.route binding.switch binding.subnet "" 0) interface earlier :=
        attached.tail fun other differ subnet => (Bindings.row?_route other subnet).trans
          (if_neg fun same => differ (same.1.trans switch.symm))
      rw [named] at detached rest ⊢
      exact Walks.onward (ih (detached.settled settled) rest) detached

theorem walks_attachEach (alone : sync.outside.Alone) (settled : site.store.bindings.Settled)
    {interface : RouterInterface} (aimed : goal = some (interface.subnetId, interface.routerId))
    {l3 : SegmentId} {gateway : Option GatewayCidr} {requests : List VrfRequest} {bindings : List Binding}
    (attached : Attached site.store.bindings interface requests)
    (carriers : site.store.bindings.Carriers interface.subnetId bindings)
    (fresh : ∀ binding ∈ bindings, ∀ request ∈ requests, binding.switch ≠ request.switch)
    (held : sync.allocators.l3.Holds site.store l3 interface.routerId) :
    Walks sync goal (sync.attachEach interface l3 gateway requests bindings) site := by
  induction bindings generalizing site requests with
  | nil => exact walks_pure
  | cons binding rest ih =>
      obtain ⟨good, named, present⟩ := carriers.standing binding (.head _)
      have later : ∀ other ∈ rest, ∀ request ∈ requests, other.switch ≠ request.switch :=
        fun other member => fresh other (.tail _ member)
      unfold attachEach
      by_cases routed : binding.router = some interface.routerId
      · rw [if_pos (Binding.isAttachedTo_iff.mpr routed)]
        exact ih settled attached (carriers.tail fun _ _ => rfl) later held
      · rw [if_neg fun same => routed (Binding.isAttachedTo_iff.mp same)]
        rw [← named] at present
        have aim : goal = some (binding.subnet, interface.routerId) := named ▸ aimed
        refine (Task.leads_bind_of_run (run_routedElsewhere settled)).mpr ?_
        refine Task.leads_bind.mpr (Task.leads_attempt.mpr (Task.Leads.send (fun state => ?_) fun e state => ?_))
        · refine (Task.leads_bind_of_run (Task.run_onBindings alone rfl)).mpr ?_
          have moves : Moves sync goal site _ := .single (.attached gateway state held present aim routed)
          have taken := attached.cons l3 gateway named present (fresh binding (.head _))
          refine Walks.onward (ih (moves.settled settled) taken (carriers.tail fun other differ => ?_) ?_ ?_) moves
          · exact (Bindings.row?_route other _).trans (if_neg fun same => differ same.1)
          · intro other member request given
            rcases List.mem_cons.mp given with rfl | given
            · exact ((List.pairwise_cons.mp carriers.apart).1 other member).symm
            · exact later other member request given
          · obtain ⟨row, member, owned⟩ := held
            exact ⟨row, Store.rows_withBindings ▸ member, owned⟩
        · have moves : Moves sync goal site _ := .single (.attachRefused l3 gateway state present aim routed)
          have undone := (walks_rollbackAttach alone (moves.settled settled) aimed attached).onward moves
          exact undone.bind (fun _ _ done => done) fun _ _ done => done

theorem walks_addInterface (alone : sync.outside.Alone) (settled : site.store.bindings.Settled)
    {interface : RouterInterface} :
    Walks sync (some (interface.subnetId, interface.routerId)) (sync.addInterface interface) site := by
  unfold addInterface
  obtain ⟨found, read, carriers⟩ := @Bindings.Settled.carriers _ interface.subnetId settled
  refine (Task.leads_bind_of_run (Task.run_read read)).mpr ?_
  split
  · exact walks_pure
  · refine (leads_draw alone).bind ?_ ?_
    · rintro l3 _ ⟨rfl, held⟩
      let mid := site.withStore (sync.allocators.l3.drawn interface.routerId site.store)
      have same : mid.store.bindings = site.store.bindings := SegmentPool.bindings_drawn
      have moves : Moves sync (some (interface.subnetId, interface.routerId)) site mid :=
        .single (.drawn interface.routerId ⟨_, rfl⟩)
      have walks : Walks sync (some (interface.subnetId, interface.routerId)) (do
          let subnet ← Task.ask sync.outside (.subnet interface.subnetId)
          sync.attachEach interface l3 (subnet.bind (·.gatewayCidr)) [] found) mid := by
        refine Walks.ask fun subnet state _ => ?_
        have here : (mid.heard state).store.bindings.Settled := same ▸ settled
        exact walks_attachEach alone here rfl ⟨by simp, .nil⟩ (same ▸ carriers) (by simp) (held l3 rfl)
      exact walks.onward moves
    · rintro e _ ⟨rfl, _⟩
      exact .single (.drawn interface.routerId ⟨_, rfl⟩)

end Synchronizer
end OverlayFabric
