import OverlayFabric.Proofs.Synchronizer.Move

namespace OverlayFabric

namespace Synchronizer

variable {ω : Type} {sync : Synchronizer ω} {goal : Option (String × String)} {site : Site ω}

theorem leads_attachInterface (alone : sync.outside.Alone) (settled : site.store.bindings.Settled)
    {binding : Binding} {interface : RouterInterface} {subnet : Subnet}
    (present : site.store.bindings.row? binding.switch binding.subnet = some binding.row)
    (aimed : goal = some (binding.subnet, interface.routerId))
    (other : binding.router ≠ some interface.routerId) :
    Task.Leads (sync.attachInterface binding interface subnet) site fun result after =>
      Moves sync goal site after ∧ site.store.bindings.SameBut binding.switch binding.subnet after.store.bindings ∧
        ∀ e, result = .error e → after.store.bindings = site.store.bindings := by
  unfold attachInterface
  have drawn : Move sync goal site _ := .drawn interface.routerId ⟨_, aimed⟩
  refine (leads_draw alone).bind ?_ ?_
  · rintro l3 _ ⟨rfl, held⟩
    let mid := site.withStore (sync.allocators.l3.drawn interface.routerId site.store)
    have same : mid.store.bindings = site.store.bindings := SegmentPool.bindings_drawn
    have here : mid.store.bindings.Settled := same ▸ settled
    have began : Moves sync goal site mid := .single drawn
    have there : mid.store.bindings.row? binding.switch binding.subnet = some binding.row := same ▸ present
    rw [Task.leads_bind_of_run (run_routedElsewhere here)]
    rw [Task.leads_bind]
    refine Task.Leads.send (fun state => ?_) fun e state => ?_
    · rw [Task.leads_bind_of_run (Task.run_onBindings alone rfl), Task.leads_pure]
      refine ⟨began.tail (.attached subnet.gatewayCidr state (held l3 rfl) there aimed other), ?_,
        fun _ absurd => by cases absurd⟩
      rw [← same]
      exact Bindings.sameBut_route
    · exact ⟨began.tail (.attachRefused l3 subnet.gatewayCidr state there aimed other),
        same ▸ Bindings.sameBut_refl, fun _ _ => same⟩
  · rintro e _ ⟨rfl, _⟩
    have same : (site.withStore (sync.allocators.l3.drawn interface.routerId site.store)).store.bindings =
        site.store.bindings := SegmentPool.bindings_drawn
    exact ⟨.single drawn, same ▸ Bindings.sameBut_refl, fun _ _ => same⟩

theorem leads_attachLeaf (alone : sync.outside.Alone) (settled : site.store.bindings.Settled)
    {subnet : Subnet} {binding : Binding} {pushed : Option L2Request} {interface : Option RouterInterface}
    (present : site.store.bindings.row? binding.switch binding.subnet = some binding.row)
    (aimed : ∀ i, interface = some i → goal = some (binding.subnet, i.routerId))
    (undo : ∀ request, pushed = some request → binding.router = none ∧
      ∃ leaf ∈ sync.topology.leaves, ∃ subnet project, (∃ network, sync.outside.Reports network subnet) ∧
        binding.switch = leaf.ip ∧ binding.subnet = subnet.id ∧
        request = leafRequest leaf project subnet binding.vlan binding.l2) :
    Task.Leads (sync.attachLeaf subnet binding pushed interface) site fun result after =>
      Moves sync goal site after ∧ site.store.bindings.SameBut binding.switch binding.subnet after.store.bindings ∧
        ∀ e, result = .error e → after.store.bindings =
          if pushed.isSome then site.store.bindings.without binding.switch binding.subnet else site.store.bindings := by
  cases interface with
  | none => exact ⟨.refl, Bindings.sameBut_refl, fun _ absurd => by cases absurd⟩
  | some interface =>
      unfold attachLeaf
      by_cases already : binding.isAttachedTo interface.routerId = true
      · simp only [already, if_true]
        exact ⟨.refl, Bindings.sameBut_refl, fun _ absurd => by cases absurd⟩
      · simp only [already]
        have other : binding.router ≠ some interface.routerId := fun same =>
          already (Binding.isAttachedTo_iff.mpr same)
        apply Task.leads_bind.mpr
        apply Task.leads_attempt.mpr
        apply (leads_attachInterface alone settled present (aimed interface rfl) other).mono
        intro result mid ⟨moves, others, kept⟩
        cases result with
        | ok _ => exact ⟨moves, others, fun _ absurd => by cases absurd⟩
        | error e =>
            have same := kept e rfl
            cases pushed with
            | none => exact ⟨moves, others, fun _ _ => same⟩
            | some request =>
                obtain ⟨unrouted, leaf, known, subnet, project, reported, switch, named, rfl⟩ := undo request rfl
                rw [← same] at present ⊢
                apply Task.Leads.ignore_send
                intro accepted state
                rw [Task.leads_bind_of_run (run_removeBinding alone), Task.leads_throw]
                rw [switch, named] at present ⊢
                exact ⟨moves.tail (.unbound project accepted state known reported present unrouted),
                  Bindings.sameBut_without, fun _ _ => rfl⟩

theorem attachLeaf_configured (configured : Bool) {subnet : Subnet} {binding : Binding}
    {pushed : Option L2Request} {interface : Option RouterInterface} :
    sync.attachLeaf subnet { binding with configured } pushed interface =
      sync.attachLeaf subnet binding pushed interface := by
  cases interface <;> rfl

theorem run_configureL2_of_configured {leaf : LeafSwitch} {port : Port} {subnet : Subnet} {binding : Binding}
    {created : Bool} (configured : binding.configured = true) :
    (sync.configureL2 leaf port subnet binding created).run site = (.ok none, site) := by
  unfold configureL2
  rw [if_pos configured]
  rfl

theorem leads_configureL2 (alone : sync.outside.Alone) {leaf : LeafSwitch} {port : Port} {subnet : Subnet}
    {binding : Binding} (unconfigured : binding.configured = false)
    {post : Except SyncError (Option L2Request) → Site ω → Prop}
    (refused : ∀ e state, post (.error e)
      ((site.took (.pushL2 (leafRequest leaf port.projectId subnet binding.vlan binding.l2)) false state).withBindings
        (site.store.bindings.without leaf.ip subnet.id)))
    (accepted : ∀ state, post (.ok (some (leafRequest leaf port.projectId subnet binding.vlan binding.l2)))
      ((site.took (.pushL2 (leafRequest leaf port.projectId subnet binding.vlan binding.l2)) true state).withBindings
        (site.store.bindings.marked leaf.ip subnet.id))) :
    Task.Leads (sync.configureL2 leaf port subnet binding true) site post := by
  unfold configureL2
  rw [if_neg (by simp [unconfigured]), Task.leads_bind, Task.leads_attempt]
  refine Task.Leads.send (fun state => ?_) fun e state => ?_
  · exact (Task.leads_bind_of_run (Task.run_onBindings alone rfl)).mpr (accepted state)
  · exact (Task.leads_bind_of_run (run_removeBinding alone)).mpr (refused _ state)

/-- How the row of a pair is set up: in moves, without a change of any other row, and to no effect on the
rows when it fails. -/
structure SetsUp (sync : Synchronizer ω) (goal : Option (String × String)) (switch subnet : String) (site : Site ω)
    (result : Except SyncError Unit) (after : Site ω) : Prop where
  moves : Moves sync goal site after
  others : site.store.bindings.SameBut switch subnet after.store.bindings
  failed : ∀ e, result = .error e → ∀ s n, after.store.bindings.row? s n = site.store.bindings.row? s n

theorem leads_configureLeaf_of_present (alone : sync.outside.Alone) (settled : site.store.bindings.Settled)
    {port : Port} {segments : PortSegments} {subnet : Subnet} {interface : Option RouterInterface}
    {leaf : LeafSwitch} {row : BindingRow} (found : site.store.bindings.row? leaf.ip subnet.id = some row)
    (aimed : ∀ i, interface = some i → goal = some (subnet.id, i.routerId)) :
    Task.Leads (sync.configureLeaf port segments subnet interface leaf) site
      (SetsUp sync goal leaf.ip subnet.id site) := by
  unfold configureLeaf
  refine (Task.leads_bind_of_run (Task.run_onBindings alone rfl)).mpr ?_
  have present : site.store.bindings.contains leaf.ip subnet.id = true := by
    rw [Bindings.contains_eq_isSome, found]
    rfl
  rw [Bindings.add_of_present present]
  have here : (site.withBindings site.store.bindings.skip).store.bindings.Settled := settled
  rcases @Bindings.Settled.get _ leaf.ip subnet.id here with ⟨absent, _⟩ | ⟨binding, same, good, read⟩
  · cases found.symm.trans absent
  · obtain ⟨_, switch, named⟩ := Bindings.row?_eq_some_iff.mp same
    have switch : binding.switch = leaf.ip := switch
    have named : binding.subnet = subnet.id := named
    refine (Task.leads_bind_of_run (Task.run_read read)).mpr ?_
    refine (Task.leads_bind_of_run (run_configureL2_of_configured good.configured)).mpr ?_
    have began : Moves sync goal site (site.withBindings site.store.bindings.skip) := .single .counted
    have now : (site.withBindings site.store.bindings.skip).store.bindings.row? binding.switch binding.subnet =
        some binding.row := by rwa [switch, named]
    refine (leads_attachLeaf alone here now (named ▸ aimed) (by simp [present])).mono ?_
    intro result after ⟨moves, others, failed⟩
    refine ⟨began.trans moves, switch ▸ named ▸ others, fun e same s n => ?_⟩
    simp [failed e same, present]

theorem leads_configureLeaf_of_absent (alone : sync.outside.Alone) (settled : site.store.bindings.Settled)
    {port : Port} {segments : PortSegments} {subnet : Subnet} {interface : Option RouterInterface}
    {leaf : LeafSwitch} (known : leaf ∈ sync.topology.leaves)
    (reported : ∃ network, sync.outside.Reports network subnet)
    (found : site.store.bindings.row? leaf.ip subnet.id = none)
    (aimed : ∀ i, interface = some i → goal = some (subnet.id, i.routerId)) :
    Task.Leads (sync.configureLeaf port segments subnet interface leaf) site
      (SetsUp sync goal leaf.ip subnet.id site) := by
  unfold configureLeaf
  refine (Task.leads_bind_of_run (Task.run_onBindings alone rfl)).mpr ?_
  have absent : site.store.bindings.contains leaf.ip subnet.id = false := by
    rw [Bindings.contains_eq_isSome, found]
    rfl
  let fresh (configured : Bool) := leafBinding leaf subnet segments.vlan segments.overlay configured
  have unmarked : (site.store.bindings.add (fresh false 0).row).row? leaf.ip subnet.id =
      some (fresh false site.store.bindings.next).row := by
    rw [Bindings.row?_addLeaf found, if_pos ⟨rfl, rfl⟩]
  have removed (configured : Bool) : (site.store.bindings.add (fresh configured 0).row).without leaf.ip subnet.id =
      site.store.bindings.skip := Bindings.add_without found
  have marked : (site.store.bindings.add (fresh false 0).row).marked leaf.ip subnet.id =
      site.store.bindings.add (fresh true 0).row := Bindings.add_marked found
  have added : site.store.bindings.SameBut leaf.ip subnet.id (site.store.bindings.add (fresh true 0).row) :=
    @Bindings.sameBut_add _ (fresh true 0).row found
  have read := Bindings.get_of_row (by simp [fresh, leafBinding]) unmarked
  refine (Task.leads_bind_of_run (Task.run_read read)).mpr ?_
  rw [absent]
  refine Task.leads_bind.mpr (leads_configureL2 alone rfl (fun e state => ?_) fun state => ?_)
  · -- The row added for the push is removed again, and only its number is gone.
    have counted : Moves sync goal site (site.withBindings site.store.bindings.skip) := .single .counted
    have refused := counted.tail
      (.refused port.projectId segments.vlan segments.overlay state known reported found)
    have gone (s n : String) : ((site.store.bindings.add (fresh false 0).row).without leaf.ip subnet.id).row? s n =
        site.store.bindings.row? s n := congrArg (·.row? s n) (removed false)
    rw [← removed false] at refused
    exact ⟨refused, fun s n _ => gone s n, fun _ _ => gone⟩
  · have bound : Moves sync goal site _ :=
      .single (.bound port.projectId segments.vlan segments.overlay state known reported found)
    have there := bound.settled settled
    let binding := fresh true site.store.bindings.next
    have now : (site.store.bindings.add (fresh true 0).row).row? binding.switch binding.subnet =
        some binding.row := by
      rw [Bindings.row?_addLeaf found, if_pos ⟨rfl, rfl⟩]
    have gone := removed true
    rw [← marked] at bound there now added gone
    simp only [Bool.not_false, if_true]
    rw [← attachLeaf_configured true]
    refine (leads_attachLeaf alone there now aimed ?_).mono ?_
    · rintro _ ⟨⟩
      exact ⟨rfl, leaf, known, subnet, port.projectId, reported, rfl, rfl, rfl⟩
    · rintro result after ⟨moves, others, failed⟩
      refine ⟨bound.trans moves, added.trans others, fun e same s n => ?_⟩
      rw [failed e same]
      exact congrArg (·.row? s n) gone

theorem leads_configureLeaf (alone : sync.outside.Alone) (settled : site.store.bindings.Settled)
    {port : Port} {segments : PortSegments} {subnet : Subnet} {interface : Option RouterInterface}
    {leaf : LeafSwitch} (known : leaf ∈ sync.topology.leaves)
    (reported : ∃ network, sync.outside.Reports network subnet)
    (aimed : ∀ i, interface = some i → goal = some (subnet.id, i.routerId)) :
    Task.Leads (sync.configureLeaf port segments subnet interface leaf) site
      (SetsUp sync goal leaf.ip subnet.id site) := by
  cases found : site.store.bindings.row? leaf.ip subnet.id with
  | some row => exact leads_configureLeaf_of_present alone settled found aimed
  | none => exact leads_configureLeaf_of_absent alone settled known reported found aimed

def KeepsRowsBut (leaves : List LeafSwitch) (subnet : String) (bindings after : Bindings) : Prop :=
  ∀ s n, after.row? s n = bindings.row? s n ∨ n = subnet ∧ ∃ leaf ∈ leaves, leaf.ip = s

/-- The leaf at which it fails, and those after it, have the rows that they had. -/
theorem leads_configureLeaves (alone : sync.outside.Alone) (settled : site.store.bindings.Settled)
    {port : Port} {segments : PortSegments} {subnet : Subnet} {interface : Option RouterInterface}
    {leaves : List LeafSwitch} (known : ∀ leaf ∈ leaves, leaf ∈ sync.topology.leaves)
    (reported : ∃ network, sync.outside.Reports network subnet)
    (aimed : ∀ i, interface = some i → goal = some (subnet.id, i.routerId)) :
    Task.Leads (sync.configureLeaves port segments subnet interface leaves) site fun result after =>
      Moves sync goal site after ∧ KeepsRowsBut leaves subnet.id site.store.bindings after.store.bindings ∧
        ∀ e, result = .error e → KeepsRowsBut leaves.dropLast subnet.id site.store.bindings after.store.bindings := by
  induction leaves generalizing site with
  | nil => exact ⟨.refl, fun _ _ => Or.inl rfl, fun _ absurd => by cases absurd⟩
  | cons leaf rest ih =>
      have first : Task.Leads (sync.configureLeaf port segments subnet interface leaf) site
          (SetsUp sync goal leaf.ip subnet.id site) := leads_configureLeaf alone settled (known leaf (.head _)) reported aimed
      apply first.bind
      · intro _ mid setUp
        have turn {leaves : List LeafSwitch} {after : Site ω}
            (kept : KeepsRowsBut leaves subnet.id mid.store.bindings after.store.bindings) :
            KeepsRowsBut (leaf :: leaves) subnet.id site.store.bindings after.store.bindings := by
          intro s n
          by_cases here : s = leaf.ip ∧ n = subnet.id
          · exact Or.inr ⟨here.2, leaf, .head _, here.1.symm⟩
          · rcases kept s n with kept | ⟨named, other, among, switch⟩
            · exact Or.inl (kept.trans (setUp.others s n here))
            · exact Or.inr ⟨named, other, .tail _ among, switch⟩
        -- Only a leaf that others follow has its row changed by a run that fails.
        cases rest with
        | nil => exact ⟨setUp.moves, turn fun _ _ => Or.inl rfl, fun _ absurd => by cases absurd⟩
        | cons next rest =>
            apply (ih (setUp.moves.settled settled) fun other member => known other (.tail _ member)).mono
            intro result after ⟨moves, kept, failed⟩
            exact ⟨setUp.moves.trans moves, turn kept, fun e same => turn (failed e same)⟩
      · intro e after setUp
        have same (s n : String) := setUp.failed e rfl s n
        exact ⟨setUp.moves, fun s n => Or.inl (same s n), fun _ _ s n => Or.inl (same s n)⟩

theorem known_of_leavesFor {port : Port} {segments : PortSegments} :
    ∀ leaf ∈ sync.leavesFor port segments, leaf ∈ sync.topology.leaves :=
  fun _ member => List.mem_of_mem_filter (List.mem_of_mem_filter member)

def portGoal (sync : Synchronizer ω) (port : Port) (state : ω) : Option (String × String) :=
  match sync.outside.ask (.subnetsOf port.networkId) state with
  | (.ok (subnet :: _), state) =>
      match (sync.outside.ask (.interfaceOn subnet.id) state).1 with
      | .ok (some interface) => some (subnet.id, interface.routerId)
      | _ => none
  | _ => none

theorem reports_of_ask {port : Port} {subnet : Subnet} {rest : List Subnet} {state after : ω}
    (said : sync.outside.ask (.subnetsOf port.networkId) state = (.ok (subnet :: rest), after)) :
    sync.outside.Reports port.networkId subnet :=
  ⟨state, subnet :: rest, by rw [said], .head _⟩

theorem leads_configure (alone : sync.outside.Alone) (settled : site.store.bindings.Settled) {port : Port}
    {segments : PortSegments} :
    Task.Leads (sync.configure port segments) site fun result after =>
      Moves sync (sync.portGoal port site.outside) site after ∧ (after.store.bindings = site.store.bindings ∨
        ∃ subnet rest, (sync.outside.ask (.subnetsOf port.networkId) site.outside).1 = .ok (subnet :: rest) ∧
          KeepsRowsBut (sync.leavesFor port segments) subnet.id site.store.bindings after.store.bindings ∧
          ∀ e, result = .error e →
            KeepsRowsBut (sync.leavesFor port segments).dropLast subnet.id site.store.bindings after.store.bindings) := by
  unfold configure subnetOf
  split
  · exact ⟨.refl, Or.inl rfl⟩
  · rw [bind_assoc]
    apply Task.leads_bind.mpr
    apply Task.Leads.ask
    · intro subnets state said
      have heard : Move sync (sync.portGoal port site.outside) site (site.heard state) := .heard state
      cases subnets with
      | nil => exact ⟨.single heard, Or.inl rfl⟩
      | cons subnet rest =>
          simp only [pure_bind, List.head?_cons]
          split
          · exact ⟨.single heard, Or.inl rfl⟩
          · apply Task.leads_bind.mpr
            apply Task.Leads.ask
            · intro interface later answered
              have began := (Relation.ReflTransGen.single heard).tail (.heard later)
              have reported : sync.outside.Reports port.networkId subnet := reports_of_ask said
              have here : ((site.heard state).heard later).store.bindings.Settled := settled
              have aimed : ∀ i, interface = some i → sync.portGoal port site.outside = some (subnet.id, i.routerId) := by
                rintro given rfl
                have asked : (sync.outside.ask (.interfaceOn subnet.id) state).1 = .ok (some given) :=
                  congrArg Prod.fst answered
                simp only [portGoal, said, asked]
              apply (leads_configureLeaves alone here known_of_leavesFor ⟨_, reported⟩ aimed).mono
              intro result after ⟨moves, kept, failed⟩
              exact ⟨began.trans moves, Or.inr ⟨subnet, rest, congrArg Prod.fst said, kept, failed⟩⟩
            · intro e later _
              exact ⟨(Relation.ReflTransGen.single heard).tail (.heard later), Or.inl rfl⟩
    · intro e state _
      exact ⟨.single (.heard state), Or.inl rfl⟩

theorem walks_configure (alone : sync.outside.Alone) (settled : site.store.bindings.Settled) {port : Port}
    {segments : PortSegments} :
    Walks sync (sync.portGoal port site.outside) (sync.configure port segments) site :=
  (leads_configure alone settled).mono fun _ _ => And.left

end Synchronizer
end OverlayFabric
