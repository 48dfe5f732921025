import OverlayFabric.Proofs.Synchronizer.Bind

namespace OverlayFabric

namespace BindingRow

def unrouted (subnet : String) (switches : List String) (row : BindingRow) : BindingRow :=
  if row.subnet = subnet ∧ row.switch ∈ switches then { row with router := "", l3 := 0 } else row

variable {subnet switch router : String} {switches : List String} {l3 : Int} {row : BindingRow}

theorem unrouted_nowhere : unrouted subnet [] row = row := by
  simp [unrouted]

theorem unrouted_routeWith (among : switch ∈ switches) :
    unrouted subnet switches (Bindings.routeWith switch subnet router l3 row) = unrouted subnet switches row := by
  unfold Bindings.routeWith
  split
  · next here =>
      obtain ⟨rfl, rfl⟩ := isFor_iff.mp here
      simp only [unrouted, and_self, among, if_true]
  · rfl

theorem unrouted_unroute :
    unrouted subnet switches (Bindings.routeWith switch subnet "" 0 row) = unrouted subnet (switch :: switches) row := by
  unfold Bindings.routeWith
  split
  · next here =>
      obtain ⟨rfl, rfl⟩ := isFor_iff.mp here
      simp [unrouted]
  · next elsewhere =>
      rw [isFor_iff] at elsewhere
      unfold unrouted
      congr 1
      simp only [List.mem_cons, eq_iff_iff, and_congr_right_iff]
      intro named
      simp [show row.switch ≠ switch from fun same => elsewhere ⟨same, named⟩]

/-- The row as a rollback leaves it that was caused by a switch. -/
def rolledBack (interface : RouterInterface) (refusing : String) (row : BindingRow) : BindingRow :=
  if row.subnet = interface.subnetId ∧ row.router ≠ interface.routerId ∧ row.switch < refusing then
    { row with router := "", l3 := 0 }
  else row

theorem rolledBack_of_free {interface : RouterInterface} {refusing : String}
    (free : row.subnet = interface.subnetId → row.router = interface.routerId ∨ row.router = "" ∧ row.l3 = 0) :
    row.rolledBack interface refusing = row := by
  unfold rolledBack
  split
  · next undone =>
      obtain ⟨router, l3⟩ := (free undone.1).resolve_left undone.2.1
      rw [← router, ← l3]
  · rfl

end BindingRow

namespace Synchronizer

variable {ω : Type} {sync : Synchronizer ω} {site after : Site ω} {ranges : PoolRanges} {interface : RouterInterface}
  {l3 : SegmentId} {gateway : Option GatewayCidr}

theorem leads_rollbackAttach (alone : sync.outside.Alone) {subnet : String} {requests : List VrfRequest} :
    Task.Leads (sync.rollbackAttach subnet requests) site fun _ after => site.record <+: after.record ∧
      after.store.bindings.rows = site.store.bindings.rows.map (.unrouted subnet (requests.map (·.switch))) := by
  induction requests generalizing site with
  | nil => exact ⟨List.prefix_rfl, (List.map_id'' (fun _ => BindingRow.unrouted_nowhere) _).symm⟩
  | cons request earlier ih =>
      unfold rollbackAttach
      refine Task.Leads.ignore_send fun accepted state => ?_
      rw [Task.leads_bind_of_run (Task.run_onBindings alone rfl)]
      apply ih.mono
      rintro _ after ⟨kept, rows⟩
      refine ⟨(List.prefix_append _ _).trans kept, ?_⟩
      rw [rows, List.map_cons]
      refine (List.map_map ..).trans (List.map_congr_left fun row _ => ?_)
      exact BindingRow.unrouted_unroute

/-- A switch refused the interface: the rows of the bindings before its own are without a router, unless
they had been attached to the one of the interface. -/
structure Refused (interface : RouterInterface) (requests : List VrfRequest) (earlier : List Binding)
    (refusing : Binding) (site after : Site ω) : Prop where
  refused : ∃ request issued, after.record = site.record ++ issued ∧ ⟨.pushVrf request, false⟩ ∈ issued ∧
    request.switch = refusing.switch ∧ request.routerId = interface.routerId
  rows : ∃ switches, (∀ s, s ∈ switches ↔ s ∈ requests.map (·.switch) ∨
      ∃ binding ∈ earlier, binding.switch = s ∧ binding.router ≠ some interface.routerId) ∧
    after.store.bindings.rows = site.store.bindings.rows.map (.unrouted interface.subnetId switches)

theorem leads_attachEach (alone : sync.outside.Alone) (settled : site.store.bindings.Settled)
    {requests : List VrfRequest} {bindings : List Binding} (named : ∀ binding ∈ bindings, binding.subnet = interface.subnetId) :
    Task.Leads (sync.attachEach interface l3 gateway requests bindings) site fun result after =>
      ∀ e, result = .error e → ∃ earlier refusing later, bindings = earlier ++ refusing :: later ∧
        Refused interface requests earlier refusing site after := by
  induction bindings generalizing site requests with
  | nil => exact fun _ absurd => by cases absurd
  | cons binding rest ih =>
      have others : ∀ other ∈ rest, other.subnet = interface.subnetId := fun other member => named other (.tail _ member)
      unfold attachEach
      by_cases routed : binding.router = some interface.routerId
      · rw [if_pos (Binding.isAttachedTo_iff.mpr routed)]
        apply (ih settled others).mono
        intro _ after failed e same
        obtain ⟨earlier, refusing, later, rfl, refused, switches, among, rows⟩ := failed e same
        refine ⟨binding :: earlier, refusing, later, rfl, refused, switches, fun s => ?_, rows⟩
        simp [among, routed]
      · rw [if_neg fun same => routed (Binding.isAttachedTo_iff.mp same)]
        refine (Task.leads_bind_of_run (run_routedElsewhere settled)).mpr ?_
        refine Task.leads_bind.mpr (Task.leads_attempt.mpr (Task.Leads.send (fun state => ?_) fun e state => ?_))
        · refine (Task.leads_bind_of_run (Task.run_onBindings alone rfl)).mpr ?_
          apply (ih (settled.route l3) others).mono
          intro _ after failed e same
          obtain ⟨earlier, refusing, later, rfl, ⟨request, issued, record, refused⟩, switches, among, rows⟩ := failed e same
          refine ⟨binding :: earlier, refusing, later, rfl, ?_, switches, fun s => ?_, ?_⟩
          · exact ⟨request, _, record.trans (List.append_assoc ..), List.mem_append_right _ refused.1, refused.2⟩
          · simp [among, routed, interfaceRequest, eq_comm, or_left_comm, or_assoc]
          · have here : binding.switch ∈ switches := (among _).mpr (Or.inl (.head _))
            rw [named binding (.head _)] at rows
            refine rows.trans ((List.map_map ..).trans (List.map_congr_left fun row _ => ?_))
            exact BindingRow.unrouted_routeWith here
        · let request := interfaceRequest binding interface l3 gateway
            (.forPush (site.store.bindings.routesElsewhere binding.switch interface.routerId binding.subnet))
          have undone : Task.Leads (sync.rollbackAttach interface.subnetId requests)
              (site.took (.pushVrf request) false state) fun _ after => Refused interface requests [] binding site after := by
            apply (leads_rollbackAttach alone).mono
            rintro _ after ⟨⟨issued, record⟩, rows⟩
            have among : ⟨.pushVrf request, false⟩ ∈ [⟨.pushVrf request, false⟩] ++ issued := .head _
            exact ⟨⟨request, _, record.symm.trans (List.append_assoc ..), among, rfl, rfl⟩, _, by simp, rows⟩
          have refused {after : Site ω} (left : Refused interface requests [] binding site after) :
              ∃ earlier refusing later, binding :: rest = earlier ++ refusing :: later ∧
                Refused interface requests earlier refusing site after := ⟨[], binding, rest, rfl, left⟩
          exact undone.bind (fun _ _ left _ _ => refused left) fun _ _ left _ _ => refused left

theorem mem_earlier_iff {subnet : String} {earlier later : List Binding} {refusing : Binding}
    (settled : site.store.bindings.Settled)
    (read : site.store.bindings.onSubnet subnet = .ok (earlier ++ refusing :: later)) {row : BindingRow} :
    (∃ binding ∈ earlier, binding.row = row) ↔
      (row ∈ site.store.bindings.rows ∧ row.subnet = subnet) ∧ row.switch < refusing.switch := by
  obtain ⟨_, right, below⟩ := List.pairwise_append.mp (settled.ascending_onSubnet read)
  rw [← settled.mem_onSubnet read]
  constructor
  · rintro ⟨binding, among, rfl⟩
    exact ⟨⟨binding, List.mem_append_left _ among, rfl⟩, below binding among refusing (.head _)⟩
  · rintro ⟨⟨binding, among, rfl⟩, less⟩
    rcases List.mem_append.mp among with among | among
    · exact ⟨binding, among, rfl⟩
    · rcases List.mem_cons.mp among with rfl | among
      · exact absurd less (String.lt_irrefl _)
      · exact absurd less (String.lt_asymm ((List.pairwise_cons.mp right).1 binding among))

theorem Refused.rolledBack {earlier later : List Binding} {refusing : Binding} (named : interface.routerId ≠ "")
    (settled : site.store.bindings.Settled)
    (read : site.store.bindings.onSubnet interface.subnetId = .ok (earlier ++ refusing :: later))
    (refused : Refused interface [] earlier refusing site after) :
    after.store.bindings.rows = site.store.bindings.rows.map (.rolledBack interface refusing.switch) := by
  obtain ⟨switches, among, rows⟩ := refused.rows
  rw [rows]
  refine List.map_congr_left fun row member => ?_
  unfold BindingRow.unrouted BindingRow.rolledBack
  congr 1
  simp only [eq_iff_iff, and_congr_right_iff]
  intro here
  simp only [among, List.map_nil, List.not_mem_nil, false_or]
  constructor
  · rintro ⟨binding, before, switch, other⟩
    obtain ⟨⟨known, there⟩, less⟩ := (mem_earlier_iff settled read).mp ⟨binding, before, rfl⟩
    have same : binding.row = row := Bindings.eq_of_same known member switch (there.trans here.symm)
    rw [← same, ne_eq, Binding.router_row_eq_iff named]
    exact ⟨other, less⟩
  · rintro ⟨other, less⟩
    obtain ⟨binding, before, rfl⟩ := (mem_earlier_iff settled read).mpr ⟨⟨member, here⟩, less⟩
    rw [ne_eq, Binding.router_row_eq_iff named] at other
    exact ⟨binding, before, rfl, other⟩

/-- What a failed attachment may leave. -/
structure RolledBack (interface : RouterInterface) (site after : Site ω) : Prop where
  rows : after.store.bindings.rows = site.store.bindings.rows ∨ ∃ request issued,
    after.record = site.record ++ issued ∧ ⟨.pushVrf request, false⟩ ∈ issued ∧
    request.routerId = interface.routerId ∧
    after.store.bindings.rows = site.store.bindings.rows.map (.rolledBack interface request.switch)
  l3 : after.store.l3 = site.store.l3 ∨ (∀ row ∈ site.store.l3, row.owner ≠ interface.routerId) ∧
    ∃ segment : SegmentId,
      after.store.l3 = Pool.l3Segment.lend [(none, segment.val)] interface.routerId site.store.l3

theorem RolledBack.rows_of_free (left : RolledBack interface site after)
    (free : ∀ row ∈ site.store.bindings.rows, row.subnet = interface.subnetId →
      row.router = interface.routerId ∨ row.router = "" ∧ row.l3 = 0) :
    after.store.bindings.rows = site.store.bindings.rows := by
  rcases left.rows with same | ⟨request, _, _, _, _, undone⟩
  · exact same
  · rw [undone]
    exact (List.map_congr_left fun row member => BindingRow.rolledBack_of_free (free row member)).trans (List.map_id _)

theorem RolledBack.l3_of_held (left : RolledBack interface site after)
    (held : ∃ row ∈ site.store.l3, row.owner = interface.routerId) : after.store.l3 = site.store.l3 := by
  obtain ⟨row, member, owned⟩ := held
  exact left.l3.resolve_right fun drew => drew.1 row member owned

theorem leads_addInterface (alone : sync.outside.Alone) (settled : site.store.bindings.Settled)
    (named : interface.routerId ≠ "") : Task.Leads (sync.addInterface interface) site fun result after =>
      ∀ e, result = .error e → after.store.bindings.rows = site.store.bindings.rows ∨ ∃ request issued,
        after.record = site.record ++ issued ∧ ⟨.pushVrf request, false⟩ ∈ issued ∧
        request.routerId = interface.routerId ∧
        after.store.bindings.rows = site.store.bindings.rows.map (.rolledBack interface request.switch) := by
  unfold addInterface
  obtain ⟨found, read, _⟩ := @Bindings.Settled.onSubnet _ interface.subnetId settled
  refine (Task.leads_bind_of_run (Task.run_read read)).mpr ?_
  split
  · exact fun _ absurd => by cases absurd
  · let drawn := site.withStore (sync.allocators.l3.drawn interface.routerId site.store)
    have same : drawn.store.bindings = site.store.bindings := SegmentPool.bindings_drawn
    refine (leads_draw alone).bind ?_ ?_
    · rintro l3 _ ⟨rfl, _⟩
      refine Task.leads_bind.mpr (Task.Leads.ask (fun subnet state _ => ?_) fun e state _ _ _ => ?_)
      · have here : (drawn.heard state).store.bindings.Settled := same ▸ settled
        have read : drawn.store.bindings.onSubnet interface.subnetId = .ok found := same ▸ read
        have named_of (binding : Binding) (member : binding ∈ found) : binding.subnet = interface.subnetId :=
          ((here.mem_onSubnet read).mp ⟨binding, member, rfl⟩).2
        apply (leads_attachEach alone here named_of).mono
        intro _ after failed e error
        obtain ⟨earlier, refusing, later, rfl, refused⟩ := failed e error
        obtain ⟨request, issued, record, among, switch, router⟩ := refused.refused
        refine Or.inr ⟨request, issued, record, among, router, ?_⟩
        rw [refused.rolledBack named here read, switch]
        exact congrArg (fun bindings : Bindings => bindings.rows.map _) same
      · exact Or.inl (congrArg Bindings.rows same)
    · rintro e _ ⟨rfl, _⟩ _ _
      exact Or.inl (congrArg Bindings.rows same)

/-- An interface that cannot be attached leaves the rows as they were but for those of its subnet on the
switches before one that refused it, which are attached to no router now unless they had been to its own,
and the segments of layer 3 but for one that its router drew. -/
theorem failed_attach_leaves {configuration : Configuration} {outside : Outside ω} {e : SyncError} (alone : outside.Alone)
    (reachable : site.store.Reachable) (named : interface.routerId ≠ "") :
    let sync := ofConfiguration configuration ranges outside
    (sync.addInterface interface).run site = (.error e, after) → RolledBack interface site after ∧
      ((∀ row ∈ site.store.bindings.rows, row.subnet = interface.subnetId →
          row.router = interface.routerId ∨ row.router = "" ∧ row.l3 = 0) →
        after.store.bindings.rows = site.store.bindings.rows) ∧
      ((∃ row ∈ site.store.l3, row.owner = interface.routerId) → after.store.l3 = site.store.l3) := by
  intro sync failed
  have served : sync.allocators = .ofRanges ranges := rfl
  have settled := reachable.sound.settled
  have walks : Walks sync _ (sync.addInterface interface) site := walks_addInterface alone settled
  have leads : Task.Leads (sync.addInterface interface) site _ := leads_addInterface alone settled named
  have left : RolledBack interface site after := by
    refine ⟨leads.of_run failed e rfl, (Moves.lent served reachable.sound (walks.of_run failed)).imp_right ?_⟩
    rintro ⟨_, router, segment, aimed, unheld, lent⟩
    cases aimed
    exact ⟨unheld, segment, lent⟩
  exact ⟨left, left.rows_of_free, left.l3_of_held⟩

theorem failed_attach_leaves_on_second_leaf :
    let subnet : Subnet := ⟨"inner", "net", "10.1.0.0/24", none⟩
    let port : Port := ⟨"port", "net", "tenant", "compute:x", "host", .active⟩
    let segments : PortSegments := ⟨⟨7, by decide, by decide⟩, ⟨5, by decide, by decide⟩, "blue"⟩
    let sync : Synchronizer Unit := ofConfiguration .paired .paired
      (.refusing (fun call => call.isPushVrf && call.switch == "10.0.0.2") subnet none)
    let bound := sync.after (.portBound port segments) ⟨.paired, [], ()⟩
    ∃ e after, (sync.addInterface ⟨"router", "inner", "net", "tenant"⟩).run bound = (.error e, after) ∧
      RolledBack ⟨"router", "inner", "net", "tenant"⟩ bound after ∧
      after.store.bindings.rows = bound.store.bindings.rows := by
  intro subnet port segments sync bound
  have refused : ((sync.addInterface ⟨"router", "inner", "net", "tenant"⟩).run bound).1 =
      .error (.fabric (.invalidRequest "refused")) := by decide +kernel
  obtain ⟨after, failed⟩ := Task.run_of_result refused
  have reachable : bound.store.Reachable :=
    .handled (.portBound port segments) .paired Configuration.check_paired fun _ => rfl
  obtain ⟨left, rows, _⟩ := failed_attach_leaves (fun _ => rfl) reachable (by decide) failed
  exact ⟨_, after, failed, left, rows (by decide +kernel)⟩

/-- The rows of both leaves are attached to another router when the second leaf refuses the interface:
the row of the first is attached to none after that, and the router keeps the segment that it drew. -/
theorem failed_attach_unroutes_row_and_keeps_segment :
    let subnet : Subnet := ⟨"inner", "net", "10.1.0.0/24", none⟩
    let port : Port := ⟨"port", "net", "tenant", "compute:x", "host", .active⟩
    let segments : PortSegments := ⟨⟨7, by decide, by decide⟩, ⟨5, by decide, by decide⟩, "blue"⟩
    let willing : Synchronizer Unit := ofConfiguration .paired .paired
      (.small subnet (some ⟨"other", "inner", "net", "tenant"⟩))
    let refusing : Synchronizer Unit := ofConfiguration .paired .paired
      (.refusing (fun call => call.isPushVrf && call.switch == "10.0.0.2") subnet none)
    let bound := willing.after (.portBound port segments) ⟨.paired, [], ()⟩
    let failed := (refusing.addInterface ⟨"router", "inner", "net", "tenant"⟩).run bound
    let attachments (store : Store) := store.bindings.rows.map fun row => (row.switch, row.router, row.l3)
    Configuration.paired.check = .ok .paired ∧ bound.store.Reachable ∧
      failed.1 = .error (.fabric (.invalidRequest "refused")) ∧
      attachments bound.store = [("10.0.0.1", "other", 101), ("10.0.0.2", "other", 101)] ∧
      attachments failed.2.store = [("10.0.0.1", "", 0), ("10.0.0.2", "other", 101)] ∧
      bound.store.l3 = [⟨none, 100, ""⟩, ⟨none, 101, "other"⟩] ∧
      failed.2.store.l3 = [⟨none, 100, "router"⟩, ⟨none, 101, "other"⟩] := by
  intro subnet port segments willing refusing bound failed attachments
  have reachable : bound.store.Reachable :=
    .handled (.portBound port segments) .paired Configuration.check_paired fun _ => rfl
  exact ⟨Configuration.check_paired, reachable, by decide +kernel⟩

end Synchronizer
end OverlayFabric
