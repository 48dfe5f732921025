import OverlayFabric.Proofs.Binding.Legible
import OverlayFabric.Proofs.Synchronizer.Again

namespace OverlayFabric

def Bindings.Serves (bindings : Bindings) (switch subnet : String) (interface : Option RouterInterface) : Prop :=
  ∃ row, bindings.row? switch subnet = some row ∧ ∀ i, interface = some i → row.router = i.routerId

namespace Synchronizer
open OverlayFabric.Task (Leads leads_bind leads_attempt leads_bind_of_run run_read run_onBindings)

variable {ω ω' : Type} {sync : Synchronizer ω} {site : Site ω} {port : Port} {segments : PortSegments}
  {subnet : Subnet} {binding : Binding} {interface : Option RouterInterface} {leaf : LeafSwitch}

theorem leads_routedElsewhere {switch router subnet : String} :
    Leads (sync.routedElsewhere switch router subnet) site fun _ after => after = site := by
  unfold routedElsewhere
  exact Task.leads_read.bind (fun _ _ same => same) fun _ _ same => same

theorem leads_attachInterface_serves (alone : sync.outside.Alone) {interface : RouterInterface} {row : BindingRow}
    (present : site.store.bindings.row? binding.switch binding.subnet = some row) :
    Leads (sync.attachInterface binding interface subnet) site fun result after => result = .ok () →
      after.store.bindings.Serves binding.switch binding.subnet (some interface) := by
  unfold attachInterface
  refine (leads_draw alone).bind ?_ fun _ _ _ => nofun
  rintro l3 _ ⟨rfl, _⟩
  refine leads_routedElsewhere.bind ?_ fun _ _ _ => nofun
  rintro vrfExists _ rfl
  refine leads_bind.mpr (Task.Leads.send (fun state => ?_) fun _ _ => nofun)
  refine (leads_bind_of_run (run_onBindings alone rfl)).mpr fun _ => ?_
  refine ⟨{ row with router := interface.routerId, l3 := l3.val }, ?_, by rintro _ ⟨⟩; rfl⟩
  refine (Bindings.row?_route _ _).trans ?_
  rw [if_pos ⟨rfl, rfl⟩, Site.store_took, Site.store_withStore, SegmentPool.bindings_drawn, present]
  rfl

theorem leads_attachLeaf_serves (alone : sync.outside.Alone) {pushed : Option L2Request} {row : BindingRow}
    (present : site.store.bindings.row? binding.switch binding.subnet = some row)
    (read : row.router = binding.row.router) :
    Leads (sync.attachLeaf subnet binding pushed interface) site fun result after => result = .ok () →
      after.store.bindings.Serves binding.switch binding.subnet interface := by
  cases interface with
  | none => exact fun _ => ⟨row, present, nofun⟩
  | some interface =>
      unfold attachLeaf
      by_cases already : binding.isAttachedTo interface.routerId = true
      · simp only [already, if_true]
        refine fun _ => ⟨row, present, ?_⟩
        rintro _ ⟨⟩
        exact read.trans (Binding.row_of_routed (Binding.isAttachedTo_iff.mp already))
      · simp only [already]
        refine leads_bind.mpr (leads_attempt.mpr ((leads_attachInterface_serves alone present).mono ?_))
        intro result after serves
        cases result with
        | ok _ => exact fun _ => serves rfl
        | error e =>
            cases pushed with
            | none => exact nofun
            | some request =>
                exact Task.Leads.ignore_send fun _ _ => (leads_bind_of_run (run_removeBinding alone)).mpr nofun

theorem leads_configureL2_keeps (alone : sync.outside.Alone) {created : Bool} {row : BindingRow}
    (present : site.store.bindings.row? leaf.ip subnet.id = some row) :
    Leads (sync.configureL2 leaf port subnet binding created) site fun result after => ∀ pushed, result = .ok pushed →
      ∃ kept, after.store.bindings.row? leaf.ip subnet.id = some kept ∧ kept.router = row.router := by
  unfold configureL2
  split
  · exact fun _ _ => ⟨row, present, rfl⟩
  · refine leads_bind.mpr (leads_attempt.mpr (Task.Leads.send (fun state => ?_) fun e state => ?_))
    · refine (leads_bind_of_run (run_onBindings alone rfl)).mpr fun _ _ => ⟨{ row with configured := true }, ?_, rfl⟩
      refine (Bindings.row?_marked _ _).trans ?_
      rw [if_pos ⟨rfl, rfl⟩, Site.store_took, present]
      rfl
    · dsimp only
      split
      · exact (leads_bind_of_run (run_removeBinding alone)).mpr nofun
      · exact nofun

theorem leads_configureLeaf_serves (alone : sync.outside.Alone) (legible : site.store.bindings.Legible) :
    Leads (sync.configureLeaf port segments subnet interface leaf) site fun result after => result = .ok () →
      after.store.bindings.Serves leaf.ip subnet.id interface := by
  unfold configureLeaf
  refine (leads_bind_of_run (run_onBindings alone rfl)).mpr ?_
  let fresh (number : Nat) := leafBinding leaf subnet segments.vlan segments.overlay false number
  have here : (site.store.bindings.add (fresh 0).row).Legible := legible.add ⟨fresh site.store.bindings.next, nofun, rfl⟩
  rcases @Bindings.Legible.get _ leaf.ip subnet.id here with ⟨absent, _⟩ | ⟨binding, present, _, read⟩
  · -- The row is there, by this insertion or by an earlier one.
    have added : ((site.store.bindings.add (fresh 0).row).row? leaf.ip subnet.id).isSome = true :=
      Bindings.isSome_row?_add
    rw [absent] at added
    cases added
  · obtain ⟨_, switch, named⟩ := Bindings.row?_eq_some_iff.mp present
    have switch : binding.switch = leaf.ip := switch
    have named : binding.subnet = subnet.id := named
    refine (leads_bind_of_run (run_read read)).mpr ?_
    refine (leads_configureL2_keeps alone present).bind (fun pushed mid kept => ?_) fun _ _ _ => nofun
    obtain ⟨row, present, same⟩ := kept pushed rfl
    rw [← switch, ← named] at present ⊢
    exact leads_attachLeaf_serves alone present same

theorem leads_configureLeaves_serves (alone : sync.outside.Alone) (settled : site.store.bindings.Settled)
    {leaves : List LeafSwitch} (known : ∀ leaf ∈ leaves, leaf ∈ sync.topology.leaves)
    (reported : ∃ network, sync.outside.Reports network subnet) :
    Leads (sync.configureLeaves port segments subnet interface leaves) site fun result after => result = .ok () →
      ∀ switch, (site.store.bindings.Serves switch subnet.id interface ∨ ∃ leaf ∈ leaves, leaf.ip = switch) →
        after.store.bindings.Serves switch subnet.id interface := by
  induction leaves generalizing site with
  | nil => exact fun _ switch served => served.resolve_right (by simp)
  | cons leaf rest ih =>
      let goal : Option (String × String) := interface.map fun i => (subnet.id, i.routerId)
      have setUp : Leads (sync.configureLeaf port segments subnet interface leaf) site
          (SetsUp sync goal leaf.ip subnet.id site) :=
        leads_configureLeaf alone settled (known leaf (.head _)) reported (by rintro i rfl; rfl)
      have serves : Leads (sync.configureLeaf port segments subnet interface leaf) site _ :=
        leads_configureLeaf_serves alone settled.legible
      refine (setUp.and serves).bind (fun _ mid turn => ?_) fun _ _ _ => nofun
      refine (ih (turn.1.moves.settled settled) fun other member => known other (.tail _ member)).mono ?_
      intro result after kept done switch served
      -- A leaf that is served stays so, for it is left alone or set up again.
      by_cases here : switch = leaf.ip
      · exact kept done switch (Or.inl (here ▸ turn.2 rfl))
      · refine kept done switch (served.imp ?_ ?_)
        · rintro ⟨row, present, routed⟩
          exact ⟨row, (turn.1.others _ _ fun same => here same.1).trans present, routed⟩
        · rintro ⟨other, among, rfl⟩
          exact ⟨other, (List.mem_cons.mp among).resolve_left fun same => here (congrArg LeafSwitch.ip same), rfl⟩

theorem run_configureLeaf_of_served (alone : sync.outside.Alone) (settled : site.store.bindings.Settled)
    (named : ∀ i, interface = some i → i.routerId ≠ "")
    (served : site.store.bindings.Serves leaf.ip subnet.id interface) :
    (sync.configureLeaf port segments subnet interface leaf).run site =
      (.ok (), site.withBindings site.store.bindings.skip) := by
  obtain ⟨row, found, routed⟩ := served
  have present : site.store.bindings.contains leaf.ip subnet.id = true := by
    rw [Bindings.contains_eq_isSome, found]
    rfl
  unfold configureLeaf
  rw [Task.run_bind_of_run (run_onBindings alone rfl), Bindings.add_of_present present]
  have here : (site.withBindings site.store.bindings.skip).store.bindings.Settled := settled
  rcases @Bindings.Settled.get _ leaf.ip subnet.id here with ⟨absent, _⟩ | ⟨binding, same, good, read⟩
  · cases found.symm.trans absent
  · rw [Task.run_bind_of_run (run_read read), Task.run_bind_of_run (run_configureL2_of_configured good.configured)]
    cases interface with
    | none => rfl
    | some interface =>
        cases found.symm.trans same
        have attached : binding.router = some interface.routerId :=
          (Binding.router_row_eq_iff (named interface rfl)).mp (routed interface rfl)
        unfold attachLeaf
        simp only [Binding.isAttachedTo_iff.mpr attached, if_true]
        rfl

theorem leads_configureLeaves_of_served (alone : sync.outside.Alone) (settled : site.store.bindings.Settled)
    (named : ∀ i, interface = some i → i.routerId ≠ "") {leaves : List LeafSwitch}
    (served : ∀ leaf ∈ leaves, site.store.bindings.Serves leaf.ip subnet.id interface) :
    Leads (sync.configureLeaves port segments subnet interface leaves) site fun result quiet =>
      result = .ok () ∧ site.Still quiet := by
  induction leaves generalizing site with
  | nil => exact ⟨rfl, .refl⟩
  | cons leaf rest ih =>
      unfold configureLeaves
      refine (leads_bind_of_run (run_configureLeaf_of_served alone settled named (served leaf (.head _)))).mpr ?_
      have here : (site.withBindings site.store.bindings.skip).store.bindings.Settled := settled
      refine (ih here fun other member => served other (.tail _ member)).mono ?_
      exact fun _ _ ⟨done, still⟩ => ⟨done, Site.Still.counted.trans still⟩

theorem replays_configure {second : Outside ω'} {same : ω → ω' → Prop} (alike : sync.outside.Alike second same)
    (alone : sync.outside.Alone) (alsoAlone : second.Alone) (settled : site.store.bindings.Settled)
    (named : ∀ subnet router, sync.portGoal port site.outside = some (subnet, router) → router ≠ "") :
    Task.Replays same (sync.configure port segments) ((sync.facing second).configure port segments) site := by
  unfold configure subnetOf
  split
  · exact Task.replays_pure
  · rw [bind_assoc, bind_assoc]
    refine Task.replays_ask alike fun subnets said => ?_
    cases subnets with
    | nil => exact Task.replays_pure
    | cons subnet rest =>
        simp only [pure_bind, List.head?_cons]
        have leaves : (sync.facing second).leavesFor port segments = sync.leavesFor port segments := rfl
        rw [leaves]
        split
        · exact Task.replays_pure
        · refine Task.replays_ask alike fun interface answered => ?_
          let state := (sync.outside.ask (.subnetsOf port.networkId) site.outside).2
          have asked : sync.outside.ask (.subnetsOf port.networkId) site.outside = (.ok (subnet :: rest), state) :=
            Prod.ext said rfl
          have router (i : RouterInterface) (given : interface = some i) : i.routerId ≠ "" := by
            subst given
            refine named subnet.id i.routerId ?_
            have answered : (sync.outside.ask (.interfaceOn subnet.id) state).1 = .ok (some i) := answered
            simp only [portGoal, asked, answered]
          let last := (sync.outside.ask (.interfaceOn subnet.id) state).2
          have here : ((site.heard state).heard last).store.bindings.Settled := settled
          refine (leads_configureLeaves_serves alone here known_of_leavesFor ⟨_, reports_of_ask asked⟩).mono ?_
          rintro result after serves ⟨⟩ done sound other store _
          refine leads_configureLeaves_of_served alsoAlone (store ▸ sound.settled) router fun leaf member => ?_
          exact store ▸ serves done leaf.ip (Or.inr ⟨leaf, member, rfl⟩)

end Synchronizer
end OverlayFabric
