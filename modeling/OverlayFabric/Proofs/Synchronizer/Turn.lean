import OverlayFabric.Proofs.Synchronizer.Once
import OverlayFabric.Proofs.Synchronizer.Reachable

namespace OverlayFabric

def Outside.deliver {ω : Type} (outside : Outside ω) (calls : List Call) (state : ω) : ω :=
  calls.foldl (fun state call => (outside.send call state).2) state

namespace Synchronizer

/-- The turn of a leaf, with what the cloud said of the ports on its hosts. -/
structure Turn where
  leaf : LeafSwitch
  answer : Except CloudError (List Port)

def interfaceCalls (port : Port) (subnet : Subnet) (bindings : Bindings) (leaf : LeafSwitch) (binding : Binding) :
    List Call :=
  match binding.router, binding.l3 with
  | some router, some l3 => [.retractVrf {
      switch := leaf.ip, mode := .forRetract !bindings.routesElsewhere leaf.ip router subnet.id,
      projectId := port.projectId, networkId := subnet.networkId, routerId := router, routerVni := l3,
      l2Vni := some binding.l2, vlan := binding.vlan, gateway := subnet.gatewayCidr, isExternal := false }]
  | _, _ => []

namespace Turn

/-- Nobody needs the subnet on the leaf but the port itself and those of DHCP. -/
def clears (port : Port) (turn : Turn) : Bool :=
  match turn.answer with
  | .ok ports => ports.all fun other => other.id == port.id || other.ownerClass.isDhcp
  | .error _ => false

def failure (turn : Turn) : Option CloudError :=
  match turn.answer with
  | .ok _ => none
  | .error e => some e

def calls (port : Port) (subnet : Subnet) (bindings : Bindings) (turn : Turn) : List Call :=
  if turn.clears port then
    match bindings.get turn.leaf.ip subnet.id with
    | .ok (some binding) => interfaceCalls port subnet bindings turn.leaf binding ++
        [.retractL2 (leafRequest turn.leaf port.projectId subnet binding.vlan binding.l2)]
    | _ => []
  else []

def clear (port : Port) (subnet : Subnet) (bindings : Bindings) (turn : Turn) : Bindings :=
  if turn.clears port then bindings.without turn.leaf.ip subnet.id else bindings

end Turn

def verdict (turns : List Turn) : Except SyncError Unit :=
  match turns.findSome? Turn.failure with
  | none => .ok ()
  | some e => .error (.cloud e)

variable {ω : Type}

/-- The turns of the leaves. The cloud may have noticed the calls made in the turns before. -/
def turns (outside : Outside ω) (port : Port) (subnet : Subnet) (bindings : Bindings) : List LeafSwitch → ω → List Turn
  | [], _ => []
  | leaf :: rest, state =>
      let (answer, heard) := outside.ask (.ports leaf.hosts subnet.id) state
      let turn : Turn := ⟨leaf, answer⟩
      turn :: turns outside port subnet bindings rest (outside.deliver (turn.calls port subnet bindings) heard)

variable {sync : Synchronizer ω} {site mid after : Site ω} {port : Port} {subnet : Subnet} {leaf : LeafSwitch}
  {leaves : List LeafSwitch} {bindings other : Bindings} {binding : Binding} {outside : Outside ω} {call : Call}
  {turn : Turn}

section Calls

variable {first second : List Call}

structure Called (outside : Outside ω) (made : List Call) (site after : Site ω) : Prop where
  store : after.store = site.store
  calls : after.calls = site.calls ++ made
  outside : after.outside = outside.deliver made site.outside

theorem Called.refl : Called outside [] site site := ⟨rfl, (List.append_nil _).symm, rfl⟩

theorem Called.trans (earlier : Called outside first site mid) (later : Called outside second mid after) :
    Called outside (first ++ second) site after := by
  refine ⟨later.store.trans earlier.store, ?_, ?_⟩
  · rw [later.calls, earlier.calls, List.append_assoc]
  · rw [later.outside, earlier.outside, Outside.deliver, Outside.deliver, Outside.deliver, List.foldl_append]

theorem leads_ignore_send : Task.Leads (Task.ignore (.send outside call)) site fun result after =>
    result = .ok () ∧ Called outside [call] site after := by
  refine Task.leads_ignore.mpr ?_
  unfold Task.Leads Task.run Task.send
  rcases sent : outside.send call site.outside with ⟨e | _, state⟩
  · exact ⟨rfl, rfl, Site.calls_took, by simp [Outside.deliver, sent, Site.took]⟩
  · exact ⟨rfl, rfl, Site.calls_took, by simp [Outside.deliver, sent, Site.took]⟩

theorem leads_interfaceCalls (settled : site.store.bindings.Settled) :
    Task.Leads (sync.retractInterface port subnet binding leaf) site fun result after => result = .ok () ∧
      Called sync.outside (interfaceCalls port subnet site.store.bindings leaf binding) site after := by
  unfold retractInterface interfaceCalls
  cases binding.router with
  | none => exact ⟨rfl, .refl⟩
  | some router =>
      cases binding.l3 with
      | none => exact ⟨rfl, .refl⟩
      | some l3 => exact (Task.leads_bind_of_run (run_routedElsewhere settled)).mpr leads_ignore_send

end Calls

namespace Turn

theorem calls_congr (same : ∀ name, other.row? turn.leaf.ip name = bindings.row? turn.leaf.ip name) :
    turn.calls port subnet other = turn.calls port subnet bindings := by
  have read : other.get turn.leaf.ip subnet.id = bindings.get turn.leaf.ip subnet.id := by
    have found : other.rows.find? (·.isFor turn.leaf.ip subnet.id) = bindings.rows.find? (·.isFor turn.leaf.ip subnet.id) :=
      same subnet.id
    rw [Bindings.get, Bindings.get, found]
  have elsewhere (router : String) : other.routesElsewhere turn.leaf.ip router subnet.id =
      bindings.routesElsewhere turn.leaf.ip router subnet.id := Bindings.routesElsewhere_congr fun name _ => same name
  simp only [calls, interfaceCalls, read, elsewhere]

theorem row?_clear {switch name : String} (differ : switch ≠ turn.leaf.ip) :
    (turn.clear port subnet bindings).row? switch name = bindings.row? switch name := by
  unfold clear
  split
  · rw [Bindings.row?_without, if_neg fun same => differ same.1]
  · rfl

theorem clear_of_cleared (cleared : turn.clears port = true) :
    turn.clear port subnet bindings = bindings.without turn.leaf.ip subnet.id := if_pos cleared

theorem clear_of_used (used : turn.clears port = false) : turn.clear port subnet bindings = bindings :=
  if_neg (by simp [used])

theorem calls_of_used (used : turn.clears port = false) : turn.calls port subnet bindings = [] := if_neg (by simp [used])

theorem calls_of_binding (cleared : turn.clears port = true)
    (read : bindings.get turn.leaf.ip subnet.id = .ok (some binding)) :
    turn.calls port subnet bindings = interfaceCalls port subnet bindings turn.leaf binding ++
      [.retractL2 (leafRequest turn.leaf port.projectId subnet binding.vlan binding.l2)] := by
  rw [calls, if_pos cleared, read]

theorem settled_clear (settled : bindings.Settled) : (turn.clear port subnet bindings).Settled := by
  unfold clear
  split
  · exact settled.without
  · exact settled

theorem rows_clear {turns : List Turn} : (turns.foldl (clear port subnet) bindings).rows =
    bindings.rows.filter fun row => !turns.any fun turn => turn.clears port && row.isFor turn.leaf.ip subnet.id := by
  induction turns generalizing bindings with
  | nil => simp
  | cons turn rest ih =>
      rw [List.foldl_cons, ih, clear]
      cases cleared : turn.clears port
      · simp [cleared]
      · simp [cleared, Bindings.without, List.filter_filter, Bool.and_comm]

theorem next_clear {turns : List Turn} : (turns.foldl (clear port subnet) bindings).next = bindings.next := by
  induction turns generalizing bindings with
  | nil => rfl
  | cons turn rest ih =>
      rw [List.foldl_cons, ih, clear]
      split <;> rfl

theorem calls_of_row (settled : bindings.Settled) (cleared : turn.clears port = true) {row : BindingRow}
    (member : row ∈ bindings.rows) (here : row.isFor turn.leaf.ip subnet.id = true) :
    ∃ l2 : L2Request, l2.switch = turn.leaf.ip ∧
      (row.router = "" ∧ turn.calls port subnet bindings = [.retractL2 l2] ∨
        row.router ≠ "" ∧ ∃ vrf : VrfRequest, vrf.switch = turn.leaf.ip ∧ vrf.routerId = row.router ∧
          turn.calls port subnet bindings = [.retractVrf vrf, .retractL2 l2]) := by
  obtain ⟨binding, good, rfl⟩ := settled row member
  have present : bindings.row? turn.leaf.ip subnet.id = some binding.row :=
    Bindings.row?_eq_some_iff.mpr ⟨member, BindingRow.isFor_iff.mp here⟩
  refine ⟨leafRequest turn.leaf port.projectId subnet binding.vlan binding.l2, rfl, ?_⟩
  rw [calls_of_binding cleared (Bindings.get_of_row good.named present), Binding.router_row, interfaceCalls]
  cases routed : binding.router with
  | none => exact Or.inl ⟨rfl, rfl⟩
  | some router =>
      obtain ⟨l3, segment⟩ := Option.isSome_iff_exists.mp (good.routed (by rw [routed]; rfl))
      exact Or.inr ⟨good.ne_of_routed routed, by simp [segment]⟩

theorem calls_of_no_row (absent : ∀ row ∈ bindings.rows, row.isFor turn.leaf.ip subnet.id = false) :
    turn.calls port subnet bindings = [] := by
  simp [calls, Bindings.get_of_absent (Bindings.row?_eq_none_iff.mpr absent)]

end Turn

/-- What a turn comes to: the row goes if the leaf is cleared, with the calls that this takes, and only a leaf of
which the cloud says nothing fails. -/
structure Turned (outside : Outside ω) (port : Port) (subnet : Subnet) (turn : Turn) (heard : ω) (site : Site ω)
    (result : Except SyncError Unit) (after : Site ω) : Prop where
  result : result = verdict [turn]
  store : after.store = { site.store with bindings := turn.clear port subnet site.store.bindings }
  calls : after.calls = site.calls ++ turn.calls port subnet site.store.bindings
  outside : after.outside = outside.deliver (turn.calls port subnet site.store.bindings) heard

theorem Turned.idle {heard : ω} (kept : turn.clear port subnet site.store.bindings = site.store.bindings)
    (silent : turn.calls port subnet site.store.bindings = []) :
    Turned outside port subnet turn heard site (verdict [turn]) (site.heard heard) := by
  refine ⟨rfl, by rw [kept]; rfl, ?_, by rw [silent]; rfl⟩
  rw [silent, List.append_nil]
  rfl

theorem leads_turn (alone : sync.outside.Alone) (settled : site.store.bindings.Settled)
    {answer : Except CloudError (List Port)} {heard : ω}
    (said : sync.outside.ask (.ports leaf.hosts subnet.id) site.outside = (answer, heard)) :
    Task.Leads (sync.unconfigureLeaf port subnet leaf) site (Turned sync.outside port subnet ⟨leaf, answer⟩ heard site) := by
  unfold unconfigureLeaf isStillUsed
  rw [bind_assoc]
  refine Task.leads_bind.mpr (Task.Leads.ask (fun ports _ told => ?_) fun e _ told => ?_)
  · cases said.symm.trans told
    let turn : Turn := ⟨leaf, .ok ports⟩
    have cleared : turn.clears port = !(ports.any fun other => other.id != port.id && !other.ownerClass.isDhcp) := by
      simp [turn, Turn.clears, List.not_any_eq_all_not, bne]
    simp only [pure_bind]
    by_cases used : (ports.any fun other => other.id != port.id && !other.ownerClass.isDhcp) = true
    · rw [used] at cleared
      rw [if_pos used]
      exact .idle (Turn.clear_of_used cleared) (Turn.calls_of_used cleared)
    · rw [Bool.eq_false_iff.mpr used] at cleared
      rw [if_neg used]
      have here : (site.heard heard).store.bindings.Settled := settled
      rcases @Bindings.Settled.get _ leaf.ip subnet.id here with ⟨absent, read⟩ | ⟨binding, _, good, read⟩
      · refine (Task.leads_bind_of_run (Task.run_read read)).mpr ?_
        refine .idle ?_ (Turn.calls_of_no_row (Bindings.row?_eq_none_iff.mp absent))
        rw [Turn.clear_of_cleared cleared]
        exact Bindings.without_of_absent absent
      · refine (Task.leads_bind_of_run (Task.run_read read)).mpr ?_
        simp only [good.configured, if_true]
        refine Task.leads_bind.mpr ((leads_interfaceCalls here).mono ?_)
        rintro _ mid ⟨rfl, first⟩
        refine Task.leads_bind.mpr (leads_ignore_send.mono ?_)
        rintro _ last ⟨rfl, second⟩
        have both := first.trans second
        have told : turn.calls port subnet site.store.bindings = _ := Turn.calls_of_binding cleared read
        rw [Task.Leads, run_removeBinding alone]
        refine ⟨rfl, ?_, told ▸ both.calls, told ▸ both.outside⟩
        rw [Turn.clear_of_cleared cleared]
        simp only [Site.withBindings, both.store]
        rfl
  · cases said.symm.trans told
    exact .idle rfl rfl

theorem leads_turns (alone : sync.outside.Alone) (settled : site.store.bindings.Settled)
    (distinct : (leaves.map (·.ip)).Nodup)
    (same : ∀ leaf ∈ leaves, ∀ name, site.store.bindings.row? leaf.ip name = bindings.row? leaf.ip name) :
    let turns := turns sync.outside port subnet bindings leaves site.outside
    Task.Leads (Task.forAll (sync.unconfigureLeaf port subnet) leaves) site fun result after => result = verdict turns ∧
      after.store = { site.store with bindings := turns.foldl (Turn.clear port subnet) site.store.bindings } ∧
      after.calls = site.calls ++ turns.flatMap (Turn.calls port subnet bindings) := by
  induction leaves generalizing site with
  | nil => exact ⟨rfl, rfl, (List.append_nil _).symm⟩
  | cons leaf rest ih =>
      obtain ⟨once, distinct⟩ := List.nodup_cons.mp distinct
      unfold Synchronizer.turns
      rcases said : sync.outside.ask (.ports leaf.hosts subnet.id) site.outside with ⟨answer, heard⟩
      let turn : Turn := ⟨leaf, answer⟩
      have told : turn.calls port subnet site.store.bindings = turn.calls port subnet bindings :=
        Turn.calls_congr (same leaf (.head _))
      refine Task.leads_bind.mpr (Task.leads_attempt.mpr ((leads_turn alone settled said).mono ?_))
      rintro _ mid ⟨rfl, store, calls, state⟩
      rw [told] at calls state
      -- The rows of the leaves to come are still those of the beginning.
      have cleared : mid.store.bindings = turn.clear port subnet site.store.bindings := congrArg Store.bindings store
      have still : ∀ other ∈ rest, ∀ name, mid.store.bindings.row? other.ip name = bindings.row? other.ip name := by
        intro other among name
        have differ : other.ip ≠ turn.leaf.ip := fun same => once (List.mem_map.mpr ⟨other, among, same⟩)
        rw [cleared, Turn.row?_clear differ]
        exact same other (.tail _ among) name
      have onward := ih (cleared ▸ Turn.settled_clear settled) distinct still
      rw [state] at onward
      have whole {after : Site ω} {others : List Turn}
          (left : after.store = { mid.store with bindings := others.foldl (Turn.clear port subnet) mid.store.bindings })
          (made : after.calls = mid.calls ++ others.flatMap (Turn.calls port subnet bindings)) :
          after.store = { site.store with
            bindings := (turn :: others).foldl (Turn.clear port subnet) site.store.bindings } ∧
          after.calls = site.calls ++ (turn :: others).flatMap (Turn.calls port subnet bindings) := by
        rw [left, made, calls, List.flatMap_cons, List.append_assoc, List.foldl_cons, ← cleared, store]
        exact ⟨rfl, rfl⟩
      cases answer with
      | ok ports =>
          refine onward.mono ?_
          rintro result after ⟨rfl, left, made⟩
          exact ⟨rfl, whole left made⟩
      | error e =>
          refine Task.leads_bind.mpr (Task.leads_ignore.mpr (onward.mono ?_))
          rintro result after ⟨_, left, made⟩
          exact ⟨rfl, whole left made⟩

theorem turns_leaves {state : ω} : (turns outside port subnet bindings leaves state).map (·.leaf) = leaves := by
  induction leaves generalizing state with
  | nil => rfl
  | cons leaf rest ih => rw [turns, List.map_cons, ih]

theorem leads_portUnbound {configuration : Configuration} {segments : PortSegments} {others : List Subnet} {state : ω}
    (cabling : sync.topology = .ofConfiguration configuration) (alone : sync.outside.Alone)
    (settled : site.store.bindings.Settled) (hosted : port.hostId ≠ "")
    (answered : sync.outside.ask (.subnetsOf port.networkId) site.outside = (.ok (subnet :: others), state)) :
    let turns := turns sync.outside port subnet site.store.bindings (sync.leavesFor port segments) state
    Task.Leads (sync.portUnbound port segments) site fun result after => result = verdict turns ∧
      after.store = { site.store with bindings := turns.foldl (Turn.clear port subnet) site.store.bindings } ∧
      after.calls = site.calls ++ turns.flatMap (Turn.calls port subnet site.store.bindings) := by
  have distinct : ((sync.leavesFor port segments).map (·.ip)).Nodup := by
    have all : (sync.topology.leaves.map (·.ip)).Nodup := cabling ▸ Topology.nodup_ips
    exact all.sublist ((List.filter_sublist.trans List.filter_sublist).map _)
  unfold portUnbound unconfigure subnetOf
  rw [if_neg hosted, bind_assoc]
  refine Task.leads_bind.mpr (Task.Leads.ask (fun _ _ told => ?_) fun _ _ told => ?_)
  · cases answered.symm.trans told
    have heard : (site.heard state).store.bindings.Settled := settled
    exact leads_turns alone heard distinct fun _ _ _ => rfl
  · cases answered.symm.trans told

/-- Taking a port off its leaves gives every leaf its turn, whatever came of the turns before. The rows that go are
those of the leaves that nobody else needs, and just these leaves are told, by their own rows. The leaves of which
the cloud says nothing keep their rows, and the first of them is reported. -/
theorem leaves_torn_down_apart {configuration : Configuration} {ranges : PoolRanges} {segments : PortSegments}
    {others : List Subnet} {state : ω} (alone : outside.Alone) (reachable : site.store.Reachable) (hosted : port.hostId ≠ "")
    (answered : outside.ask (.subnetsOf port.networkId) site.outside = (.ok (subnet :: others), state)) :
    let sync := ofConfiguration configuration ranges outside
    let leaves := sync.topology.leaves.filter fun leaf =>
      leaf.hostPorts.contains port.hostId && leaf.physnet == some segments.physicalNetwork
    let turns := turns outside port subnet site.store.bindings leaves state
    let rows := site.store.bindings.rows
    turns.map (·.leaf) = leaves ∧
      ∃ after, (sync.portUnbound port segments).run site = (verdict turns, after) ∧
        after.store.bindings.rows = rows.filter (fun row =>
          !turns.any fun turn => turn.clears port && row.isFor turn.leaf.ip subnet.id) ∧
        after.store.bindings.next = site.store.bindings.next ∧
        (∀ pool, after.store.rows pool = site.store.rows pool) ∧
        after.calls = site.calls ++ turns.flatMap (Turn.calls port subnet site.store.bindings) ∧
        ∀ turn ∈ turns,
          (turn.clears port = false ∨ (∀ row ∈ rows, row.isFor turn.leaf.ip subnet.id = false) →
            turn.calls port subnet site.store.bindings = []) ∧
          ∀ row ∈ rows, turn.clears port = true → row.isFor turn.leaf.ip subnet.id = true →
            ∃ l2 : L2Request, l2.switch = turn.leaf.ip ∧
              (row.router = "" ∧ turn.calls port subnet site.store.bindings = [.retractL2 l2] ∨
                row.router ≠ "" ∧ ∃ vrf : VrfRequest, vrf.switch = turn.leaf.ip ∧ vrf.routerId = row.router ∧
                  turn.calls port subnet site.store.bindings = [.retractVrf vrf, .retractL2 l2]) := by
  intro sync leaves turns rows
  have settled := reachable.sound.settled
  have here : sync.leavesFor port segments = leaves := by
    simp only [leaves, leavesFor, Topology.leavesOf, List.filter_filter, Bool.and_comm, LeafSwitch.serves]
  have leads : Task.Leads (sync.portUnbound port segments) site _ := leads_portUnbound rfl alone settled hosted answered
  rw [here] at leads
  obtain ⟨done, store, calls⟩ := leads
  refine ⟨turns_leaves, _, Prod.ext done rfl, ?_, ?_, fun pool => ?_, calls, fun turn _ => ⟨?_, fun row member cleared is => ?_⟩⟩
  · rw [store]
    exact Turn.rows_clear
  · rw [store]
    exact Turn.next_clear
  · rw [store]
    exact Store.rows_withBindings
  · rintro (used | absent)
    · exact Turn.calls_of_used used
    · exact Turn.calls_of_no_row absent
  · exact Turn.calls_of_row settled cleared member is

def reluctant (subnet : Subnet) (interface : Option RouterInterface) : Outside Bool where
  ask query asked :=
    match query with
    | .ports _ _ => (if asked then .ok [] else .error (.unavailable "down"), true)
    | query => (((Outside.small subnet interface).ask query ()).1, asked)
  send _ asked := (.ok (), asked)
  lock _ := .free

theorem leaves_torn_down_apart_when_first_is_unanswered :
    let subnet : Subnet := ⟨"inner", "net", "10.1.0.0/24", none⟩
    let port : Port := ⟨"port", "net", "tenant", "compute:x", "host", .active⟩
    let segments : PortSegments := ⟨⟨7, by decide, by decide⟩, ⟨5, by decide, by decide⟩, "blue"⟩
    let outside : Outside Bool := reluctant subnet (some ⟨"router", "inner", "net", "tenant"⟩)
    let sync : Synchronizer Bool := ofConfiguration .paired .paired outside
    let bound := sync.after (.portBound port segments) ⟨.paired, [], false⟩
    ∃ after more, (sync.portUnbound port segments).run bound = (.error (.cloud (.unavailable "down")), after) ∧
      bound.store.bindings.rows.map (fun row => (row.switch, row.router)) = [("10.0.0.1", "router"), ("10.0.0.2", "router")] ∧
      after.store.bindings.rows = bound.store.bindings.rows.filter (·.switch == "10.0.0.1") ∧
      after.calls = bound.calls ++ more ∧
      more.map (fun call => (call.name, call.switch)) = [("retract_vrf", "10.0.0.2"), ("retract_l2", "10.0.0.2")] := by
  intro subnet port segments outside sync bound
  have reachable : bound.store.Reachable :=
    .handled (.portBound port segments) .paired Configuration.check_paired fun _ => rfl
  have answered : outside.ask (.subnetsOf "net") bound.outside = (.ok [subnet], false) := by decide +kernel
  obtain ⟨_, after, done, rows, _, _, calls, _⟩ := @leaves_torn_down_apart Bool bound port subnet outside .paired .paired
    segments [] false (fun _ => rfl) reachable (by decide) answered
  let leaves := (Topology.ofConfiguration .paired).leaves.filter fun leaf =>
    leaf.hostPorts.contains "host" && leaf.physnet == some "blue"
  let turned := turns outside port subnet bound.store.bindings leaves false
  have failed : verdict turned = .error (.cloud (.unavailable "down")) := by decide +kernel
  have kept : bound.store.bindings.rows.filter (fun row =>
      !turned.any fun turn => turn.clears port && row.isFor turn.leaf.ip subnet.id) =
        bound.store.bindings.rows.filter (·.switch == "10.0.0.1") := by decide +kernel
  exact ⟨after, _, done.trans (Prod.ext failed rfl), by decide +kernel, rows.trans kept, calls, by decide +kernel⟩

end Synchronizer
end OverlayFabric
