import OverlayFabric.Proofs.Store.Lending
import OverlayFabric.Proofs.Synchronizer.Serve

namespace OverlayFabric

namespace Synchronizer
open OverlayFabric.Task (Leads leads_bind leads_attempt leads_bind_of_run run_read run_onBindings)

variable {ω ω' : Type} {sync : Synchronizer ω} {site : Site ω} {port : Port} {segments : PortSegments}
  {subnet : Subnet} {leaf : LeafSwitch}

section Port

variable {second : Outside ω'} {same : ω → ω' → Prop} (alike : sync.outside.Alike second same)
  (alone : sync.outside.Alone) (alsoAlone : second.Alone)

include alike alone alsoAlone

omit alone alsoAlone in
theorem unnoticed_retractInterface {binding : Binding} :
    Task.Unnoticed same (sync.retractInterface port subnet binding leaf) := by
  unfold retractInterface routedElsewhere
  split
  · refine Task.Unnoticed.bind ?_ fun _ => Task.unnoticed_ignore_send alike
    exact Task.unnoticed_store.bind fun _ => Task.unnoticed_pure
  · exact Task.unnoticed_pure

omit alike alone alsoAlone in
theorem unnoticed_removeBinding {switch subnet : String} : Task.Unnoticed same (sync.removeBinding switch subnet) :=
  Task.unnoticed_store.bind fun _ => Task.unnoticed_pure

omit alike alone alsoAlone in
theorem run_unconfigureLeaf_of_idle {ports : List Port} {state : ω}
    (told : sync.outside.ask (.ports leaf.hosts subnet.id) site.outside = (.ok ports, state))
    (idle : (ports.any fun other => other.id != port.id && !other.ownerClass.isDhcp) = true ∨
      site.store.bindings.row? leaf.ip subnet.id = none) :
    (sync.unconfigureLeaf port subnet leaf).run site = (.ok (), site.heard state) := by
  have asked := @Task.run_ask _ _ sync.outside site (.ports leaf.hosts subnet.id)
  rw [told] at asked
  unfold unconfigureLeaf isStillUsed
  rw [bind_assoc, Task.run_bind_of_run asked]
  simp only [pure_bind]
  split
  · rfl
  · next unused =>
      have absent : (site.heard state).store.bindings.row? leaf.ip subnet.id = none := idle.resolve_left unused
      rw [Task.run_bind_of_run (run_read (Bindings.get_of_absent absent))]
      rfl

omit alsoAlone in
theorem leads_unconfigureLeaf_again (settled : site.store.bindings.Settled) :
    Leads (sync.unconfigureLeaf port subnet leaf) site fun result after => result = .ok () →
      ∀ other : Site ω', same site.outside other.outside →
        (after.store.bindings.row? leaf.ip subnet.id = none → other.store.bindings.row? leaf.ip subnet.id = none) →
        ∃ state, ((sync.facing second).unconfigureLeaf port subnet leaf).run other = (.ok (), other.heard state) ∧
          same after.outside state := by
  unfold unconfigureLeaf isStillUsed
  rw [bind_assoc]
  refine leads_bind.mpr (Task.Leads.ask (fun ports state told => ?_) fun _ _ _ => nofun)
  have retold (other : Site ω') (cloud : same site.outside other.outside) : ∃ later,
      second.ask (.ports leaf.hosts subnet.id) other.outside = (.ok ports, later) ∧ same state later := by
    obtain ⟨answer, later⟩ := alike.ask (.ports leaf.hosts subnet.id) cloud
    rw [told] at answer later
    exact ⟨_, Prod.ext answer rfl, later⟩
  simp only [pure_bind]
  by_cases used : (ports.any fun other => other.id != port.id && !other.ownerClass.isDhcp) = true
  · rw [if_pos used]
    intro _ other cloud _
    obtain ⟨later, told, same⟩ := retold other cloud
    exact ⟨later, @run_unconfigureLeaf_of_idle _ (sync.facing second) _ _ _ _ _ _ told (Or.inl used), same⟩
  · rw [if_neg used]
    -- What follows goes past the cloud, which by the end still stands where its answer left it.
    refine Task.Leads.mono (?_ : Leads _ _ fun result after =>
      (result = .ok () → after.store.bindings.row? leaf.ip subnet.id = none) ∧
        ∀ later, same state later → same after.outside later) ?_
    · refine ⟨?_, fun later here => (?_ : Task.Unnoticed same _) (site.heard state) later here⟩
      · change Leads _ _ fun result after => result = .ok () → after.store.bindings.row? leaf.ip subnet.id = none
        have here : (site.heard state).store.bindings.Settled := settled
        rcases @Bindings.Settled.get _ leaf.ip subnet.id here with ⟨absent, read⟩ | ⟨binding, present, good, read⟩
        · refine (leads_bind_of_run (run_read read)).mpr ?_
          exact fun _ => absent
        · refine (leads_bind_of_run (run_read read)).mpr ?_
          simp only [good.configured, if_true]
          have retracted : Leads (sync.retractInterface port subnet binding leaf) (site.heard state) fun _ _ => True :=
            trivial
          refine retracted.bind (fun _ mid _ => Task.Leads.ignore_send fun _ _ => ?_) fun _ _ _ => nofun
          rw [Leads, run_removeBinding alone]
          intro _
          exact (Bindings.row?_without _ _).trans (if_pos ⟨rfl, rfl⟩)
      · refine Task.unnoticed_store.bind fun found => ?_
        split
        · refine (unnoticed_retractInterface alike).bind fun _ => ?_
          split
          · exact (Task.unnoticed_ignore_send alike).bind fun _ => unnoticed_removeBinding
          · exact unnoticed_removeBinding
        · exact Task.unnoticed_pure
    · rintro result after ⟨gone, unnoticed⟩ done other cloud dropped
      obtain ⟨later, told, same⟩ := retold other cloud
      have absent := dropped (gone done)
      exact ⟨later, @run_unconfigureLeaf_of_idle _ (sync.facing second) _ _ _ _ _ _ told (Or.inr absent),
        unnoticed later same⟩

omit alsoAlone in
theorem leads_unconfigureLeaves_again (settled : site.store.bindings.Settled) {leaves : List LeafSwitch}
    (known : ∀ leaf ∈ leaves, leaf ∈ sync.topology.leaves) (reported : ∃ network, sync.outside.Reports network subnet) :
    Leads (Task.forAll (sync.unconfigureLeaf port subnet) leaves) site fun result after => result = .ok () →
      ∀ other : Site ω', same site.outside other.outside →
        (∀ switch, after.store.bindings.row? switch subnet.id = none → other.store.bindings.row? switch subnet.id = none) →
        ∃ state, (Task.forAll ((sync.facing second).unconfigureLeaf port subnet) leaves).run other =
          (.ok (), other.heard state) ∧ same after.outside state := by
  induction leaves generalizing site with
  | nil => exact fun _ other cloud _ => ⟨other.outside, rfl, cloud⟩
  | cons leaf rest ih =>
      have again : Leads (sync.unconfigureLeaf port subnet leaf) site _ := leads_unconfigureLeaf_again alike alone settled
      have vacates : Leads (sync.unconfigureLeaf port subnet leaf) site fun _ mid =>
          Vacates sync none [leaf] port subnet.id site mid :=
        leads_unconfigureLeaf alone settled (known leaf (.head _)) reported
      refine leads_bind.mpr (leads_attempt.mpr ((again.and vacates).mono ?_))
      intro result mid ⟨turn, vacated⟩
      cases result with
      | error e => exact leads_bind.mpr (Task.leads_ignore.mpr nofun)
      | ok _ =>
          have there : mid.store.bindings.Settled := vacated.moves.settled settled
          have others : ∀ leaf ∈ rest, leaf ∈ sync.topology.leaves := fun leaf member => known leaf (.tail _ member)
          have onward : Leads (Task.forAll (sync.unconfigureLeaf port subnet) rest) mid _ := ih there others
          have later : Leads (Task.forAll (sync.unconfigureLeaf port subnet) rest) mid fun _ after =>
              Vacates sync none rest port subnet.id mid after := leads_unconfigureLeaves alone there others reported
          -- A row that is gone stays gone, for the leaves that follow add none.
          refine (onward.and later).mono ?_
          rintro result after ⟨onward, last⟩ done other cloud dropped
          obtain ⟨state, idle, cloud⟩ := turn rfl other cloud fun gone => dropped _ (last.absent gone)
          obtain ⟨final, idles, cloud⟩ := onward done (other.heard state) cloud dropped
          have attempted := @Task.run_attempt _ _ other ((sync.facing second).unconfigureLeaf port subnet leaf)
          rw [idle] at attempted
          exact ⟨final, (Task.run_bind_of_run attempted).trans idles, cloud⟩

omit alsoAlone in
theorem replays_unconfigure (settled : site.store.bindings.Settled) :
    Task.Replays same (sync.unconfigure port segments) ((sync.facing second).unconfigure port segments) site := by
  unfold unconfigure subnetOf
  split
  · exact Task.replays_pure
  · rw [bind_assoc, bind_assoc]
    refine Task.replays_ask alike fun subnets said => ?_
    cases subnets with
    | nil => exact Task.replays_pure
    | cons subnet rest =>
        simp only [pure_bind, List.head?_cons]
        have leaves : (sync.facing second).leavesFor port segments = sync.leavesFor port segments := rfl
        rw [leaves]
        let state := (sync.outside.ask (.subnetsOf port.networkId) site.outside).2
        have asked : sync.outside.ask (.subnetsOf port.networkId) site.outside = (.ok (subnet :: rest), state) :=
          Prod.ext said rfl
        have here : (site.heard state).store.bindings.Settled := settled
        refine (leads_unconfigureLeaves_again alike alone here known_of_leavesFor ⟨_, reports_of_ask asked⟩).mono ?_
        rintro result after again ⟨⟩ done _ other store cloud
        obtain ⟨last, ran, _⟩ := again done other cloud fun switch gone => store ▸ gone
        rw [Leads, ran]
        exact ⟨rfl, .heard⟩

theorem replays_updatePort (settled : site.store.bindings.Settled) {event : PortEvent}
    (named : ∀ subnet router, sync.portGoal event.port site.outside = some (subnet, router) → router ≠ "") :
    Task.Replays same (sync.updatePort event) ((sync.facing second).updatePort event) site := by
  unfold updatePort
  split
  · split
    · exact replays_unconfigure alike alone settled
    · exact Task.replays_pure
  · split
    · split
      · exact replays_configure alike alone alsoAlone settled named
      · exact Task.replays_pure
    · exact Task.replays_pure

omit alsoAlone in
theorem replays_deletePort (settled : site.store.bindings.Settled) {event : PortEvent} :
    Task.Replays same (sync.deletePort event) ((sync.facing second).deletePort event) site := by
  unfold deletePort
  split
  · split
    · exact replays_unconfigure alike alone settled
    · exact Task.replays_pure
  · exact Task.replays_pure

end Port

section Interface

variable {interface : RouterInterface} {gateway : Option GatewayCidr} {l3 : SegmentId}

theorem leads_attachEach_routes (alone : sync.outside.Alone) {requests : List VrfRequest} {bindings : List Binding}
    (carriers : site.store.bindings.Carriers interface.subnetId bindings) :
    Leads (sync.attachEach interface l3 gateway requests bindings) site fun result after => result = .ok () →
      (∀ pool, after.store.rows pool = site.store.rows pool) ∧
      ∀ switch row, after.store.bindings.row? switch interface.subnetId = some row → row.router = interface.routerId ∨
        site.store.bindings.row? switch interface.subnetId = some row ∧
          ∀ binding ∈ bindings, binding.switch ≠ switch := by
  induction bindings generalizing site requests with
  | nil => exact fun _ => ⟨fun _ => rfl, fun _ _ found => Or.inr ⟨found, by simp⟩⟩
  | cons binding rest ih =>
      obtain ⟨_, named, present⟩ := carriers.standing binding (.head _)
      unfold attachEach
      by_cases routed : binding.isAttachedTo interface.routerId = true
      · rw [if_pos routed]
        refine (ih (carriers.tail fun _ _ => rfl)).mono fun result after others done => ?_
        obtain ⟨pools, rows⟩ := others done
        refine ⟨pools, fun switch row found => ?_⟩
        rcases rows switch row found with router | ⟨before, elsewhere⟩
        · exact Or.inl router
        · by_cases here : binding.switch = switch
          · subst here
            cases present.symm.trans before
            exact Or.inl (Binding.row_of_routed (Binding.isAttachedTo_iff.mp routed))
          · exact Or.inr ⟨before, List.forall_mem_cons.mpr ⟨here, elsewhere⟩⟩
      · rw [if_neg routed]
        refine leads_routedElsewhere.bind (fun vrfExists mid same => ?_) fun _ _ _ refused => by cases refused
        rw [same]
        refine leads_bind.mpr (leads_attempt.mpr (Task.Leads.send (fun state => ?_) fun e state => ?_))
        · refine (leads_bind_of_run (run_onBindings alone rfl)).mpr ?_
          have moved (switch : String) := @Bindings.row?_route site.store.bindings binding.switch binding.subnet
            interface.routerId l3.val switch interface.subnetId
          refine (ih (carriers.tail fun other differ => ?_)).mono fun result after others done => ?_
          · exact (moved other).trans (if_neg fun same => differ same.1)
          · obtain ⟨pools, rows⟩ := others done
            refine ⟨fun pool => (pools pool).trans Store.rows_withBindings, fun switch row found => ?_⟩
            rcases rows switch row found with router | ⟨before, elsewhere⟩
            · exact Or.inl router
            · have before := (moved switch).symm.trans before
              split at before
              · obtain ⟨_, _, rfl⟩ := Option.map_eq_some_iff.mp before
                exact Or.inl rfl
              · next differ =>
                  have moved : binding.switch ≠ switch := fun same => differ ⟨same.symm, named.symm⟩
                  exact Or.inr ⟨before, List.forall_mem_cons.mpr ⟨moved, elsewhere⟩⟩
        · refine Task.Leads.mono (Task.fails_of_next fun _ _ => ⟨_, rfl⟩) ?_
          rintro _ after ⟨_, rfl⟩ done
          cases done

theorem run_attachEach_of_attached {requests : List VrfRequest} {bindings : List Binding}
    (attached : ∀ binding ∈ bindings, binding.router = some interface.routerId) :
    (sync.attachEach interface l3 gateway requests bindings).run site = (.ok (), site) := by
  induction bindings with
  | nil => rfl
  | cons binding rest ih =>
      unfold attachEach
      rw [if_pos (Binding.isAttachedTo_iff.mpr (attached binding (.head _)))]
      exact ih fun other member => attached other (.tail _ member)

theorem leads_addInterface_routes (alone : sync.outside.Alone) (settled : site.store.bindings.Settled) :
    Leads (sync.addInterface interface) site fun result after => result = .ok () →
      ∀ switch row, after.store.bindings.row? switch interface.subnetId = some row → row.router = interface.routerId ∧
        (∃ l3, sync.allocators.l3.Holds after.store l3 interface.routerId) ∧
        ∃ answer, (sync.outside.ask (.subnet interface.subnetId) site.outside).1 = .ok answer := by
  unfold addInterface
  obtain ⟨found, read, carriers⟩ := @Bindings.Settled.carriers _ interface.subnetId settled
  have carried (switch : String) (row : BindingRow)
      (present : site.store.bindings.row? switch interface.subnetId = some row) :
      ∃ binding ∈ found, binding.switch = switch := by
    obtain ⟨member, rfl, subnet⟩ := Bindings.row?_eq_some_iff.mp present
    obtain ⟨binding, among, rfl⟩ := (settled.mem_onSubnet read).mpr ⟨member, subnet⟩
    exact ⟨binding, among, rfl⟩
  refine (leads_bind_of_run (run_read read)).mpr ?_
  split
  · next empty =>
      intro _ switch row present
      obtain ⟨binding, among, _⟩ := carried switch row present
      rw [List.isEmpty_iff.mp empty] at among
      cases among
  · refine (leads_draw alone).bind ?_ fun _ _ _ => nofun
    rintro l3 _ ⟨rfl, held⟩
    refine leads_bind.mpr (Task.Leads.ask (fun subnet state told => ?_) fun _ _ _ => nofun)
    have here : ((site.withStore (sync.allocators.l3.drawn interface.routerId site.store)).heard state).store.bindings =
        site.store.bindings := SegmentPool.bindings_drawn
    refine (leads_attachEach_routes alone (here ▸ carriers)).mono fun result after routes done switch row present => ?_
    obtain ⟨pools, rows⟩ := routes done
    rcases rows switch row present with router | ⟨before, elsewhere⟩
    · obtain ⟨held, member, owned⟩ := held l3 rfl
      exact ⟨router, ⟨l3, held, (pools _).symm ▸ member, owned⟩, subnet, congrArg Prod.fst told⟩
    · -- Every row of the subnet was read off the table, so that none is left out.
      rw [here] at before
      obtain ⟨binding, among, same⟩ := carried switch row before
      exact absurd same (elsewhere binding among)

theorem leads_detachBinding_own (alone : sync.outside.Alone) (settled : site.store.bindings.Settled) {binding : Binding}
    (good : binding.Settled) (present : site.store.bindings.row? binding.switch binding.subnet = some binding.row)
    (named : interface.routerId ≠ "") :
    Leads (sync.detachBinding interface gateway binding) site fun _ after => ∀ row,
      after.store.bindings.row? binding.switch binding.subnet = some row → row.router ≠ interface.routerId := by
  unfold detachBinding
  by_cases routed : binding.router = some interface.routerId
  · obtain ⟨l3, segment⟩ := Option.isSome_iff_exists.mp (good.routed (by rw [routed]; rfl))
    rw [if_neg (by simp [Binding.isAttachedTo, routed])]
    simp only [segment]
    refine (leads_bind_of_run (run_routedElsewhere settled)).mpr (Task.Leads.ignore_send fun accepted state => ?_)
    refine (leads_bind_of_run (run_onBindings alone rfl)).mpr fun row found => ?_
    have found := (Bindings.row?_route _ _).symm.trans found
    rw [if_pos ⟨rfl, rfl⟩] at found
    obtain ⟨_, _, rfl⟩ := Option.map_eq_some_iff.mp found
    exact named.symm
  · rw [if_pos (by simp [Binding.isAttachedTo, routed])]
    intro row found same
    cases present.symm.trans found
    exact routed ((Binding.router_row_eq_iff named).mp same)

theorem leads_detachBindings_gone (alone : sync.outside.Alone) (named : interface.routerId ≠ "")
    (settled : site.store.bindings.Settled) {found : List Binding}
    (read : site.store.bindings.onSubnet interface.subnetId = .ok found)
    (carriers : site.store.bindings.Carriers interface.subnetId found) :
    Leads (Task.forAll (sync.detachBinding interface gateway) found) site fun _ after => ∀ switch row,
      after.store.bindings.row? switch interface.subnetId = some row → row.router ≠ interface.routerId := by
  -- A row that is still the router's is that of a switch whose turn is to come.
  let keeps (rest : List Binding) (now : Site ω) : Prop :=
    now.store.bindings.Settled ∧ now.store.bindings.Carriers interface.subnetId rest ∧
      ∀ switch row, now.store.bindings.row? switch interface.subnetId = some row → row.router = interface.routerId →
        ∃ binding ∈ rest, binding.switch = switch
  have each (binding : Binding) (rest : List Binding) (now : Site ω) (kept : keeps (binding :: rest) now) :
      Leads (sync.detachBinding interface gateway binding) now fun _ after => keeps rest after := by
    obtain ⟨here, carriers, left⟩ := kept
    obtain ⟨good, subnet, present⟩ := carriers.standing binding (.head _)
    rw [← subnet] at present
    have turn : Leads (sync.detachBinding interface gateway binding) now fun _ after =>
        Moves sync none now after ∧ ∀ switch, switch ≠ binding.switch → ∀ subnet,
          after.store.bindings.row? switch subnet = now.store.bindings.row? switch subnet :=
      leads_detachBinding alone here good present
    refine (turn.and (leads_detachBinding_own alone here good present named)).mono ?_
    intro _ after ⟨⟨moves, same⟩, own⟩
    have rest : after.store.bindings.Carriers interface.subnetId rest :=
      carriers.tail fun switch other => same switch other _
    refine ⟨moves.settled here, rest, fun switch row stands routed => ?_⟩
    by_cases its : switch = binding.switch
    · rw [its, ← subnet] at stands
      exact absurd routed (own row stands)
    · obtain ⟨other, among, on⟩ := left switch row ((same switch its _).symm.trans stands) routed
      rcases List.mem_cons.mp among with rfl | among
      · exact absurd on.symm its
      · exact ⟨other, among, on⟩
  have start : keeps found site := by
    refine ⟨settled, carriers, fun switch row present _ => ?_⟩
    obtain ⟨member, rfl, subnet⟩ := Bindings.row?_eq_some_iff.mp present
    obtain ⟨binding, among, rfl⟩ := (settled.mem_onSubnet read).mpr ⟨member, subnet⟩
    exact ⟨binding, among, rfl⟩
  refine (Task.Leads.forAll each start).mono fun _ after ⟨_, _, left⟩ switch row stands routed => ?_
  obtain ⟨_, absurd, _⟩ := left switch row stands routed
  cases absurd

theorem leads_detachBindings_of_gone {found : List Binding}
    (gone : ∀ binding ∈ found, binding.router ≠ some interface.routerId) :
    Leads (Task.forAll (sync.detachBinding interface gateway) found) site fun result quiet =>
      result = .ok () ∧ site.Still quiet := by
  let keeps (rest : List Binding) (now : Site ω) : Prop :=
    now = site ∧ ∀ binding ∈ rest, binding.router ≠ some interface.routerId
  have each (binding : Binding) (rest : List Binding) (now : Site ω) (kept : keeps (binding :: rest) now) :
      Leads (sync.detachBinding interface gateway binding) now fun result after => result = .ok () ∧ keeps rest after := by
    obtain ⟨rfl, gone⟩ := kept
    have other := gone binding (.head _)
    unfold detachBinding
    rw [if_pos (by simp [Binding.isAttachedTo, other])]
    exact ⟨rfl, rfl, fun later member => gone later (.tail _ member)⟩
  refine (Task.Leads.forAll_ok each ⟨rfl, gone⟩).mono ?_
  rintro _ _ ⟨done, rfl, _⟩
  exact ⟨done, .refl⟩

variable {second : Outside ω'} {same : ω → ω' → Prop} (alike : sync.outside.Alike second same)
  (alone : sync.outside.Alone) (alsoAlone : second.Alone)

include alike alone

theorem replays_removeInterface (settled : site.store.bindings.Settled) :
    Task.Replays same (sync.removeInterface interface) ((sync.facing second).removeInterface interface) site := by
  unfold removeInterface
  have detached (gateway : Option GatewayCidr) (state : ω) : Task.Replays same (do
        let bindings ← Task.store sync.outside fun _ => .read (·.bindings.onSubnet interface.subnetId)
        Task.forAll (sync.detachBinding interface gateway) bindings) (do
        let bindings ← Task.store second fun _ => .read (·.bindings.onSubnet interface.subnetId)
        Task.forAll ((sync.facing second).detachBinding interface gateway) bindings) (site.heard state) := by
    have here : (site.heard state).store.bindings.Settled := settled
    obtain ⟨found, read, carriers⟩ := @Bindings.Settled.carriers _ interface.subnetId here
    refine (leads_bind_of_run (run_read read)).mpr ?_
    have gone : Leads (Task.forAll (sync.detachBinding interface gateway) found) (site.heard state) fun _ after =>
        interface.routerId ≠ "" → ∀ switch row, after.store.bindings.row? switch interface.subnetId = some row →
          row.router ≠ interface.routerId :=
      fun named => leads_detachBindings_gone alone named here read carriers
    refine gone.mono ?_
    rintro result after gone ⟨⟩ done sound other store cloud
    have there : other.store.bindings.Settled := store ▸ sound.settled
    obtain ⟨others, reread, carriers⟩ := @Bindings.Settled.carriers _ interface.subnetId there
    refine (leads_bind_of_run (run_read reread)).mpr (leads_detachBindings_of_gone fun binding member attached => ?_)
    obtain ⟨good, _, present⟩ := carriers.standing binding member
    exact gone (good.ne_of_routed attached) binding.switch binding.row (store ▸ present) (Binding.row_of_routed attached)
  refine Task.replays_attempt_ask alike fun result => ?_
  cases result with
  | ok subnet => exact detached _ _
  | error e => exact detached none _

include alsoAlone

theorem replays_addInterface (settled : site.store.bindings.Settled) (named : interface.routerId ≠ "") :
    Task.Replays same (sync.addInterface interface) ((sync.facing second).addInterface interface) site := by
  refine (leads_addInterface_routes alone settled).mono ?_
  rintro result after routes ⟨⟩ done sound other store cloud
  have there : other.store.bindings.Settled := store ▸ sound.settled
  obtain ⟨found, read, carriers⟩ := @Bindings.Settled.carriers _ interface.subnetId there
  unfold addInterface
  refine (leads_bind_of_run (run_read read)).mpr ?_
  cases found with
  | nil => exact ⟨rfl, .refl⟩
  | cons binding rest =>
      have told (b : Binding) (member : b ∈ binding :: rest) := routes done b.switch b.row
        (store ▸ (carriers.standing b member).2.2)
      obtain ⟨_, ⟨l3, row, member, has, owned⟩, subnet, answered⟩ := told binding (.head _)
      obtain ⟨_, _, _, segment, _, _, drew⟩ := SegmentPool.run_of_held (sound.pools sync.allocators.l3.pool)
        ⟨row, member, PoolRow.isOwnedIn_iff.mpr ⟨(PoolRow.hasId_iff.mp has).1, owned⟩⟩
      rw [← store] at drew
      refine (leads_bind_of_run (Task.run_store alsoAlone drew)).mpr ?_
      have asked := @Task.run_ask _ _ second other (.subnet interface.subnetId)
      rw [(alike.ask _ cloud).1, answered] at asked
      refine (leads_bind_of_run asked).mpr ?_
      have attached (b : Binding) (member : b ∈ binding :: rest) : b.router = some interface.routerId :=
        (Binding.router_row_eq_iff named).mp (told b member).1
      rw [Leads, run_attachEach_of_attached attached]
      exact ⟨rfl, .heard⟩

end Interface

theorem replays_handle {second : Outside ω'} {same : ω → ω' → Prop} (alike : sync.outside.Alike second same)
    (alone : sync.outside.Alone) (alsoAlone : second.Alone) (settled : site.store.bindings.Settled) {event : Event}
    (onLeaves : event.isOnLeaves = true)
    (named : ∀ subnet router, sync.eventGoal event site.outside = some (subnet, router) → router ≠ "") :
    Task.Replays same (sync.handle event) ((sync.facing second).handle event) site := by
  cases event with
  | portUpdated event => exact (replays_updatePort alike alone alsoAlone settled named).map _
  | portDeleted event => exact (replays_deletePort alike alone settled).map _
  | portBound port segments => exact (replays_configure alike alone alsoAlone settled named).map _
  | portUnbound port segments => exact (replays_unconfigure alike alone settled).map _
  | interfaceAdded interface => exact (replays_addInterface alike alone alsoAlone settled (named _ _ rfl)).map _
  | interfaceRemoved interface => exact (replays_removeInterface alike alone settled).map _
  | _ => cases onLeaves

/-- An event of a port or an interface that succeeded and comes once more, to the same cloud and whatever fabric,
succeeds with the same answer, makes no call and leaves every row as it was. -/
theorem replay_changes_nothing {κ φ φ' : Type} (ask : {α : Type} → Query α → κ → Except CloudError α × κ)
    (send : Call → φ → Except FabricError Unit × φ) (send' : Call → φ' → Except FabricError Unit × φ')
    {configuration : Configuration} {ranges : PoolRanges} (checked : configuration.check = .ok ranges) {event : Event}
    (onLeaves : event.isOnLeaves = true) {site after : Site (κ × φ)} (reachable : site.store.Reachable) {answer : Json}
    (named : ∀ subnet router, (ofConfiguration configuration ranges (.pair ask send)).eventGoal event site.outside =
      some (subnet, router) → router ≠ "")
    (done : ((ofConfiguration configuration ranges (.pair ask send)).handle event).run site = (.ok answer, after))
    (record : List Sent) (fabric : φ') :
    ∃ quiet, ((ofConfiguration configuration ranges (.pair ask send')).handle event).run
        ⟨after.store, record, (site.outside.1, fabric)⟩ = (.ok answer, quiet) ∧
      quiet.record = record ∧ (∀ pool, quiet.store.rows pool = after.store.rows pool) ∧
      quiet.store.bindings.rows = after.store.bindings.rows := by
  let sync := ofConfiguration configuration ranges (.pair ask send)
  have alone : sync.outside.Alone := fun _ => rfl
  have last : sync.after event site = after := congrArg Prod.snd done
  have sound : after.store.Sound :=
    last ▸ (Store.Reachable.handled event reachable checked alone : (sync.after event site).store.Reachable).sound
  have replays : Task.Replays _ (sync.handle event) ((sync.facing (.pair ask send')).handle event) site :=
    replays_handle Outside.alike_pair alone (fun _ => rfl) reachable.sound.settled onLeaves named
  obtain ⟨same, still⟩ := replays.of_run done answer rfl sound ⟨after.store, record, (site.outside.1, fabric)⟩ rfl rfl
  obtain ⟨quiet, ran⟩ := Task.run_of_result same
  rw [ran] at still
  exact ⟨quiet, ran, still.record, still.pools, still.bindings⟩

theorem bound_port_replayed_before_refusals :
    let cloud : Outside Unit := .small ⟨"inner", "net", "10.1.0.0/24", none⟩ (some ⟨"router", "inner", "net", "tenant"⟩)
    let accept (_ : Call) (state : Unit) : Except FabricError Unit × Unit := (.ok (), state)
    let refuse (_ : Call) (state : Unit) : Except FabricError Unit × Unit := (.error (.invalidRequest "refused"), state)
    let port : Port := ⟨"port", "net", "tenant", "compute:x", "host", .active⟩
    let segments : PortSegments := ⟨⟨5000, by decide, by decide⟩, ⟨200, by decide, by decide⟩, "blue"⟩
    let bound := ((ofConfiguration .paired .paired (.pair cloud.ask accept)).handle (.portBound port segments)).run
      ⟨.paired, [], ((), ())⟩
    let again := ((ofConfiguration .paired .paired (.pair cloud.ask refuse)).handle (.portBound port segments)).run
      ⟨bound.2.store, [], ((), ())⟩
    bound.1.isOk = true ∧ bound.2.calls.map Call.name = ["push_l2", "push_vrf", "push_l2", "push_vrf"] ∧
      again.1 = bound.1 ∧ again.2.record = [] ∧ again.2.store.l3 = bound.2.store.l3 ∧
      again.2.store.bindings.rows = bound.2.store.bindings.rows := by
  intro cloud accept refuse port segments bound again
  have bindings : bound.1.isOk = true ∧
      bound.2.calls.map Call.name = ["push_l2", "push_vrf", "push_l2", "push_vrf"] := by decide +kernel
  obtain ⟨answer, succeeded⟩ : ∃ answer, bound.1 = .ok answer := by
    cases result : bound.1 with
    | ok answer => exact ⟨answer, rfl⟩
    | error e => simp [result, Except.isOk, Except.toBool] at bindings
  obtain ⟨after, ran⟩ := Task.run_of_result succeeded
  obtain ⟨quiet, replayed, record, pools, rows⟩ := replay_changes_nothing cloud.ask accept refuse
    Configuration.check_paired rfl .paired (by rintro _ _ ⟨⟩; decide) ran [] ()
  have l3 : quiet.store.l3 = after.store.l3 := pools .l3Segment
  have last : after = bound.2 := congrArg Prod.snd ran.symm
  rw [last] at replayed l3 rows
  have replayed : again = (.ok answer, quiet) := replayed
  rw [replayed]
  exact ⟨bindings.1, bindings.2, succeeded.symm, record, l3, rows⟩

end Synchronizer
end OverlayFabric
