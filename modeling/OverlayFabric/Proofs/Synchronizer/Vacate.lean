import OverlayFabric.Proofs.Synchronizer.Leaf

namespace OverlayFabric

namespace Synchronizer

variable {ω : Type} {sync : Synchronizer ω} {goal : Option (String × String)} {site : Site ω}

theorem leads_retractInterface (settled : site.store.bindings.Settled) {port : Port} {subnet : Subnet}
    {binding : Binding} {leaf : LeafSwitch} (good : binding.Settled) (switch : binding.switch = leaf.ip)
    (named : binding.subnet = subnet.id) {post : Except SyncError Unit → Site ω → Prop}
    (unrouted : binding.router = none → post (.ok ()) site)
    (routed : ∀ (interface : RouterInterface) l3 gateway accepted state,
      binding.router = some interface.routerId → binding.l3 = some l3 → post (.ok ())
        (site.took (.retractVrf (interfaceRequest binding interface l3 gateway (.forRetract
          !site.store.bindings.routesElsewhere binding.switch interface.routerId binding.subnet))) accepted state)) :
    Task.Leads (sync.retractInterface port subnet binding leaf) site post := by
  unfold retractInterface
  cases given : binding.router with
  | none => exact unrouted given
  | some router =>
      obtain ⟨l3, segment⟩ := Option.isSome_iff_exists.mp (good.routed (by rw [given]; rfl))
      simp only [segment]
      rw [Task.leads_bind_of_run (run_routedElsewhere settled), Task.leads_ignore, ← switch, ← named]
      have sent := routed ⟨router, binding.subnet, subnet.networkId, port.projectId⟩ l3 subnet.gatewayCidr
      exact Task.Leads.send (fun state => sent true state given segment) fun _ state => sent false state given segment

/-- For all that the cloud tells, another port needs the subnet on the leaf. -/
def Needed (sync : Synchronizer ω) (leaf : LeafSwitch) (port : Port) (subnet : String) : Prop :=
  ∃ state, ∀ ports, (sync.outside.ask (.ports leaf.hosts subnet) state).1 = .ok ports →
    ∃ other ∈ ports, other.id ≠ port.id ∧ other.ownerClass.isDhcp = false

/-- How a port is taken off leaves: in moves, without a new row, and with the rows of its subnet there
gone unless another port needs them. -/
structure Vacates (sync : Synchronizer ω) (goal : Option (String × String)) (leaves : List LeafSwitch) (port : Port)
    (subnet : String) (site after : Site ω) : Prop where
  moves : Moves sync goal site after
  kept : ∀ s n row, after.store.bindings.row? s n = some row → site.store.bindings.row? s n = some row
  gone : ∀ leaf ∈ leaves, after.store.bindings.row? leaf.ip subnet = none ∨ sync.Needed leaf port subnet

theorem Vacates.absent {leaves : List LeafSwitch} {port : Port} {subnet switch name : String} {after : Site ω}
    (vacates : Vacates sync goal leaves port subnet site after)
    (absent : site.store.bindings.row? switch name = none) : after.store.bindings.row? switch name = none := by
  rw [Option.eq_none_iff_forall_ne_some] at absent ⊢
  exact fun row found => absent row (vacates.kept _ _ row found)

theorem Vacates.append {leaves more : List LeafSwitch} {port : Port} {subnet : String} {mid after : Site ω}
    (first : Vacates sync goal leaves port subnet site mid) (second : Vacates sync goal more port subnet mid after) :
    Vacates sync goal (leaves ++ more) port subnet site after := by
  refine ⟨first.moves.trans second.moves, fun s n row found => ?_, fun leaf member => ?_⟩
  · exact first.kept s n row (second.kept s n row found)
  · rcases List.mem_append.mp member with member | member
    · exact (first.gone leaf member).imp_left second.absent
    · exact second.gone leaf member

theorem Vacates.of_without {leaf : LeafSwitch} {port : Port} {subnet : String} {after : Site ω}
    (moves : Moves sync goal site after) (without : after.store.bindings = site.store.bindings.without leaf.ip subnet) :
    Vacates sync goal [leaf] port subnet site after := by
  refine ⟨moves, fun s n row found => ?_, fun other member => Or.inl ?_⟩
  · rw [without, Bindings.row?_without] at found
    split at found
    · cases found
    · exact found
  · rw [without, Bindings.row?_without, List.mem_singleton.mp member, if_pos ⟨rfl, rfl⟩]

theorem Vacates.of_same {leaf : LeafSwitch} {port : Port} {subnet : String} {after : Site ω}
    (moves : Moves sync goal site after) (same : after.store.bindings = site.store.bindings)
    (gone : site.store.bindings.row? leaf.ip subnet = none ∨ sync.Needed leaf port subnet) :
    Vacates sync goal [leaf] port subnet site after := by
  refine ⟨moves, fun s n row found => same ▸ found, fun other member => ?_⟩
  rw [same, List.mem_singleton.mp member]
  exact gone

/-- The row goes with its interface; the table without the one and with the other is never stored. -/
theorem moves_withdrawn {leaf : LeafSwitch} {subnet : Subnet} {binding : Binding} {interface : RouterInterface}
    (l3 : SegmentId) (gateway : Option GatewayCidr) (sent : Bool) (between : ω) (project : String) (accepted : Bool)
    (later : ω) (known : leaf ∈ sync.topology.leaves) (reported : ∃ network, sync.outside.Reports network subnet)
    (good : binding.Settled) (present : site.store.bindings.row? leaf.ip subnet.id = some binding.row)
    (routed : binding.router = some interface.routerId) (segment : binding.l3 = some l3) :
    Moves sync goal site (((site.took (.retractVrf (interfaceRequest binding interface l3 gateway (.forRetract
      !site.store.bindings.routesElsewhere binding.switch interface.routerId binding.subnet))) sent between).took
        (.retractL2 (leafRequest leaf project subnet binding.vlan binding.l2)) accepted later).withBindings
          (site.store.bindings.without leaf.ip subnet.id)) := by
  obtain ⟨_, switch, named⟩ := Bindings.row?_eq_some_iff.mp present
  have switch : binding.switch = leaf.ip := switch
  have named : binding.subnet = subnet.id := named
  have here : site.store.bindings.row? binding.switch binding.subnet = some binding.row := by rwa [switch, named]
  have detached : Move sync goal site _ :=
    .detached l3 gateway sent between here (Binding.row_of_routed routed) segment (Or.inl (good.ne_of_routed routed))
  have free : (site.store.bindings.route binding.switch binding.subnet "" 0).row? leaf.ip subnet.id =
      some (binding.withRouter "" none).row := by
    rw [Bindings.row?_route, if_pos ⟨switch.symm, named.symm⟩, here, Binding.row_withRouter]
    rfl
  have unbound := (Relation.ReflTransGen.single detached).tail
    (.unbound project accepted later known reported free rfl)
  simp only [Site.bindings_withBindings, ← switch, ← named, Bindings.route_without] at unbound ⊢
  exact unbound

theorem leads_unconfigureLeaf (alone : sync.outside.Alone) (settled : site.store.bindings.Settled)
    {port : Port} {subnet : Subnet} {leaf : LeafSwitch} (known : leaf ∈ sync.topology.leaves)
    (reported : ∃ network, sync.outside.Reports network subnet) :
    Task.Leads (sync.unconfigureLeaf port subnet leaf) site fun _ after =>
      Vacates sync goal [leaf] port subnet.id site after := by
  unfold unconfigureLeaf isStillUsed
  rw [bind_assoc]
  apply Task.leads_bind.mpr
  apply Task.Leads.ask
  · intro ports state said
    have heard : Moves sync goal site (site.heard state) := .single (.heard state)
    simp only [pure_bind]
    by_cases used : (ports.any fun other => other.id != port.id && !other.ownerClass.isDhcp) = true
    · rw [if_pos used]
      refine .of_same heard rfl (Or.inr ⟨site.outside, fun told same => ?_⟩)
      rw [said] at same
      cases same
      simpa using used
    · rw [if_neg used]
      have here : (site.heard state).store.bindings.Settled := settled
      rcases @Bindings.Settled.get _ leaf.ip subnet.id here with ⟨absent, read⟩ | ⟨binding, present, good, read⟩
      · refine (Task.leads_bind_of_run (Task.run_read read)).mpr ?_
        exact .of_same heard rfl (Or.inl absent)
      · refine (Task.leads_bind_of_run (Task.run_read read)).mpr ?_
        obtain ⟨_, switch, named⟩ := Bindings.row?_eq_some_iff.mp present
        simp only [good.configured, if_true]
        refine Task.leads_bind.mpr (leads_retractInterface here good switch named ?_ ?_)
        · intro unrouted
          refine Task.Leads.ignore_send fun accepted later => ?_
          rw [Task.Leads, run_removeBinding alone]
          exact .of_without (heard.tail (.unbound port.projectId accepted later known reported present unrouted)) rfl
        · intro interface l3 gateway sent between routed segment
          refine Task.Leads.ignore_send fun accepted later => ?_
          rw [Task.Leads, run_removeBinding alone]
          have withdrawn : Moves sync goal (site.heard state) _ :=
            moves_withdrawn l3 gateway sent between port.projectId accepted later known reported good present routed
              segment
          exact .of_without (heard.trans withdrawn) rfl
  · intro e state said
    refine .of_same (.single (.heard state)) rfl (Or.inr ⟨site.outside, fun ports told => ?_⟩)
    rw [said] at told
    cases told

theorem leads_unconfigureLeaves (alone : sync.outside.Alone) (settled : site.store.bindings.Settled)
    {port : Port} {subnet : Subnet} {leaves : List LeafSwitch} (known : ∀ leaf ∈ leaves, leaf ∈ sync.topology.leaves)
    (reported : ∃ network, sync.outside.Reports network subnet) :
    Task.Leads (Task.forAll (sync.unconfigureLeaf port subnet) leaves) site fun _ after =>
      Vacates sync goal leaves port subnet.id site after := by
  let keeps (left : List LeafSwitch) (mid : Site ω) : Prop :=
    ∃ done, done ++ left = leaves ∧ Vacates sync goal done port subnet.id site mid
  have each (leaf : LeafSwitch) (left : List LeafSwitch) (mid : Site ω) (kept : keeps (leaf :: left) mid) :
      Task.Leads (sync.unconfigureLeaf port subnet leaf) mid fun _ after => keeps left after := by
    obtain ⟨done, split, vacated⟩ := kept
    have here : leaf ∈ sync.topology.leaves := known leaf (split ▸ List.mem_append_right done (.head _))
    apply (leads_unconfigureLeaf alone (vacated.moves.settled settled) here reported).mono
    intro _ after turn
    exact ⟨done ++ [leaf], by simpa using split, vacated.append turn⟩
  have start : keeps leaves site := ⟨[], rfl, .refl, fun _ _ _ found => found, by simp⟩
  apply (Task.Leads.forAll each start).mono
  intro _ after ⟨done, split, vacated⟩
  rw [List.append_nil] at split
  exact split ▸ vacated

theorem leads_unconfigure (alone : sync.outside.Alone) (settled : site.store.bindings.Settled) {port : Port}
    {segments : PortSegments} :
    Task.Leads (sync.unconfigure port segments) site fun _ after => ∃ leaves subnet,
      Vacates sync goal leaves port subnet site after ∧ (port.hostId ≠ "" → ∀ first rest,
        (sync.outside.ask (.subnetsOf port.networkId) site.outside).1 = .ok (first :: rest) →
        leaves = sync.leavesFor port segments ∧ subnet = first.id) := by
  unfold unconfigure subnetOf
  have nothing {after : Site ω} (moves : Moves sync goal site after)
      (same : after.store.bindings = site.store.bindings) : Vacates sync goal [] port "" site after :=
    ⟨moves, fun _ _ _ found => same ▸ found, by simp⟩
  split
  · next blank => exact ⟨[], "", nothing .refl rfl, fun host => absurd blank host⟩
  · rw [bind_assoc]
    apply Task.leads_bind.mpr
    apply Task.Leads.ask
    · intro subnets state said
      have heard : Moves sync goal site (site.heard state) := .single (.heard state)
      cases subnets with
      | nil =>
          refine ⟨[], "", nothing heard rfl, fun _ first rest told => ?_⟩
          rw [said] at told
          cases told
      | cons subnet rest =>
          simp only [pure_bind, List.head?_cons]
          have here : (site.heard state).store.bindings.Settled := settled
          have reported : ∃ network, sync.outside.Reports network subnet := ⟨_, reports_of_ask said⟩
          apply (leads_unconfigureLeaves alone here known_of_leavesFor reported).mono
          intro _ after vacated
          refine ⟨_, _, ⟨heard.trans vacated.moves, vacated.kept, vacated.gone⟩, fun _ first others told => ?_⟩
          rw [said] at told
          cases told
          exact ⟨rfl, rfl⟩
    · intro e state said
      refine ⟨[], "", nothing (.single (.heard state)) rfl, fun _ first rest told => ?_⟩
      rw [said] at told
      cases told

theorem walks_unconfigure (alone : sync.outside.Alone) (settled : site.store.bindings.Settled) {port : Port}
    {segments : PortSegments} : Walks sync goal (sync.unconfigure port segments) site := by
  refine (@leads_unconfigure _ _ goal _ alone settled _ _).mono ?_
  rintro _ after ⟨_, _, vacated, _⟩
  exact vacated.moves

end Synchronizer
end OverlayFabric
