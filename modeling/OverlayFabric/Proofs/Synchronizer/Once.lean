import Mathlib.Data.List.Induction
import OverlayFabric.Proofs.Synchronizer.Run

namespace OverlayFabric
open Synchronizer

/-- Each network has one subnet that never changes, and the subnets of two networks differ, also in the
network they name. -/
structure Outside.OneSubnet {ω : Type} (outside : Outside ω) : Prop where
  fixed : ∀ {network a b}, outside.Reports network a → outside.Reports network b → a = b
  apart : ∀ {m n a b}, outside.Reports m a → outside.Reports n b → m ≠ n → a.id ≠ b.id ∧ a.networkId ≠ b.networkId

theorem Outside.OneSubnet.same_or_apart {ω : Type} {outside : Outside ω} (one : outside.OneSubnet)
    {m n : String} {a b : Subnet} (first : outside.Reports m a) (second : outside.Reports n b) :
    a = b ∨ (a.id ≠ b.id ∧ a.networkId ≠ b.networkId) := by
  by_cases same : m = n
  · subst same
    exact Or.inl (one.fixed first second)
  · exact Or.inr (one.apart first second same)

theorem Outside.reports_small {subnet other : Subnet} {interface : Option RouterInterface} {network : String}
    (reported : (Outside.small subnet interface).Reports network other) :
    network = subnet.networkId ∧ other = subnet := by
  obtain ⟨_, subnets, said, member⟩ := reported
  cases said
  split at member
  · next here => exact ⟨here, List.mem_singleton.mp member⟩
  · cases member

theorem Outside.oneSubnet_small {subnet : Subnet} {interface : Option RouterInterface} :
    (Outside.small subnet interface).OneSubnet where
  fixed first second := (reports_small first).2.trans (reports_small second).2.symm
  apart first second differ := absurd ((reports_small first).1.trans (reports_small second).1.symm) differ

theorem Topology.nodup_ips {configuration : Configuration} :
    ((Topology.ofConfiguration configuration).leaves.map (·.ip)).Nodup := by
  rw [ofConfiguration, List.map_map]
  exact (List.pairwise_map.mpr configuration.leafSwitches.sorted).nodup

theorem Topology.ip_injective {configuration : Configuration} {a b : LeafSwitch}
    (first : a ∈ (Topology.ofConfiguration configuration).leaves)
    (second : b ∈ (Topology.ofConfiguration configuration).leaves) (same : a.ip = b.ip) : a = b :=
  List.inj_on_of_nodup_map nodup_ips first second same

/-- A layer-2 call for the leaf itself, not for the gateway of a router. -/
def Sent.isLeafCall (switch network : String) (sent : Sent) : Bool :=
  match sent.call with
  | .pushL2 request | .retractL2 request =>
      request.routerId.isNone && request.switch == switch && request.networkId == network
  | .pushVrf _ | .retractVrf _ => false

def lastLeafCall (record : List Sent) (switch network : String) : Option Sent :=
  (record.filter (·.isLeafCall switch network)).getLast?

/-- What may come next: a push where nothing is pushed, a retraction of what was pushed last. -/
def Follows (last : Option Sent) (sent : Sent) : Prop :=
  match sent.call with
  | .pushL2 _ => ∀ request, last ≠ some ⟨.pushL2 request, true⟩
  | .retractL2 request =>
      ∃ pushed, last = some ⟨.pushL2 pushed, true⟩ ∧ request = { pushed with projectId := request.projectId }
  | .pushVrf _ | .retractVrf _ => True

section Record

variable {record : List Sent} {sent : Sent} {switch network : String} {leaf : LeafSwitch} {project : String}
  {subnet : Subnet} {vlan : VlanId} {vni : SegmentId} {accepted : Bool}

theorem lastLeafCall_append : lastLeafCall (record ++ [sent]) switch network =
    if sent.isLeafCall switch network then some sent else lastLeafCall record switch network := by
  unfold lastLeafCall
  rw [List.filter_append]
  by_cases here : sent.isLeafCall switch network = true
  · simp [here]
  · simp [here]

theorem isLeafCall_push : Sent.isLeafCall switch network
    ⟨.pushL2 (leafRequest leaf project subnet vlan vni), accepted⟩ = true ↔
      leaf.ip = switch ∧ subnet.networkId = network := by
  simp [Sent.isLeafCall, leafRequest]

theorem isLeafCall_retract : Sent.isLeafCall switch network
    ⟨.retractL2 (leafRequest leaf project subnet vlan vni), accepted⟩ = true ↔
      leaf.ip = switch ∧ subnet.networkId = network := by
  simp [Sent.isLeafCall, leafRequest]

def Ordered (record : List Sent) (switch network : String) : Prop :=
  ∀ before sent after, record = before ++ sent :: after → sent.isLeafCall switch network = true →
    Follows (lastLeafCall before switch network) sent

theorem Ordered.append (ordered : Ordered record switch network)
    (follows : sent.isLeafCall switch network = true → Follows (lastLeafCall record switch network) sent) :
    Ordered (record ++ [sent]) switch network := by
  intro before call after split about
  rcases append_eq_split split with ⟨rfl, rfl⟩ | ⟨rest, split⟩
  · exact follows about
  · exact ordered before call rest split about

theorem Ordered.last_of_kept (ordered : Ordered record switch network) {before between rest : List Sent}
    {first : L2Request} (split : record = before ++ ⟨.pushL2 first, true⟩ :: (between ++ rest))
    (begins : Sent.isLeafCall switch network ⟨.pushL2 first, true⟩ = true)
    (kept : ∀ sent ∈ between, sent.isLeafCall switch network = true → ∀ request, sent.call ≠ .retractL2 request) :
    lastLeafCall (before ++ ⟨.pushL2 first, true⟩ :: between) switch network = some ⟨.pushL2 first, true⟩ := by
  induction between using List.reverseRecOn generalizing rest with
  | nil => rw [lastLeafCall_append, if_pos begins]
  | append_singleton between sent ih =>
      have earlier : record = before ++ ⟨.pushL2 first, true⟩ :: (between ++ sent :: rest) := by simpa using split
      have last := ih earlier fun other member => kept other (List.mem_append_left _ member)
      rw [← List.cons_append, ← List.append_assoc, lastLeafCall_append]
      split
      · next about =>
          have follows := ordered (before ++ ⟨.pushL2 first, true⟩ :: between) sent rest (by simp [split]) about
          have untaken := kept sent (by simp) about
          rw [last] at follows
          obtain ⟨call, accepted⟩ := sent
          cases call with
          | pushL2 request => exact absurd rfl (follows first)
          | retractL2 request => exact absurd rfl (untaken request)
          | pushVrf request => cases about
          | retractVrf request => cases about
      · exact last

theorem Ordered.retracted (ordered : Ordered record switch network) {before between rest : List Sent}
    {first second : L2Request}
    (split : record = before ++ ⟨.pushL2 first, true⟩ :: (between ++ ⟨.pushL2 second, true⟩ :: rest))
    (begins : Sent.isLeafCall switch network ⟨.pushL2 first, true⟩ = true)
    (ends : Sent.isLeafCall switch network ⟨.pushL2 second, true⟩ = true) :
    ∃ sent ∈ between, sent.isLeafCall switch network = true ∧ ∃ request, sent.call = .retractL2 request := by
  by_contra kept
  push Not at kept
  have last := ordered.last_of_kept split begins kept
  have follows := ordered (before ++ ⟨.pushL2 first, true⟩ :: between) _ rest (by simp [split]) ends
  exact follows first last

end Record

namespace Synchronizer

def Matches (leaves : List LeafSwitch) (switch : String) (subnet : Subnet) (row : Option BindingRow)
    (last : Option Sent) : Prop :=
  match row with
  | some row => ∃ leaf ∈ leaves, leaf.ip = switch ∧ ∃ project, ∃ vlan : VlanId, ∃ vni : SegmentId,
      row.vlan = vlan.val ∧ row.l2 = vni.val ∧
      last = some ⟨.pushL2 (leafRequest leaf project subnet vlan vni), true⟩
  | none => ∀ request, last ≠ some ⟨.pushL2 request, true⟩

def carried (bindings : Bindings) (switch name : String) : Option (Int × Int) :=
  (bindings.row? switch name).map fun row => (row.vlan, row.l2)

theorem Matches.of_carried {leaves : List LeafSwitch} {switch : String} {subnet : Subnet}
    {before after : Bindings} {last : Option Sent}
    (matched : Matches leaves switch subnet (before.row? switch subnet.id) last)
    (same : carried after switch subnet.id = carried before switch subnet.id) :
    Matches leaves switch subnet (after.row? switch subnet.id) last := by
  unfold carried at same
  cases old : before.row? switch subnet.id with
  | none =>
      rw [old] at same matched
      rw [Option.map_eq_none_iff.mp same]
      exact matched
  | some row =>
      rw [old] at same matched
      obtain ⟨now, found, equal⟩ := Option.map_eq_some_iff.mp same
      obtain ⟨leaf, known, switch, project, vlan, vni, isVlan, isVni, pushed⟩ := matched
      rw [found]
      exact ⟨leaf, known, switch, project, vlan, vni, (congrArg Prod.fst equal).trans isVlan,
        (congrArg Prod.snd equal).trans isVni, pushed⟩

theorem carried_route {bindings : Bindings} {switch subnet router : String} {l3 : Int} (s n : String) :
    carried (bindings.route switch subnet router l3) s n = carried bindings s n := by
  unfold carried
  rw [Bindings.row?_route]
  split
  · next here =>
      obtain ⟨rfl, rfl⟩ := here
      rw [Option.map_map]
      rfl
  · rfl

variable {ω : Type} {sync : Synchronizer ω} {goal : Option (String × String)} {site after : Site ω}

structure Tied (sync : Synchronizer ω) (site : Site ω) : Prop where
  settled : site.store.bindings.Settled
  known : ∀ {switch name}, (site.store.bindings.row? switch name).isSome →
    ∃ network subnet, sync.outside.Reports network subnet ∧ name = subnet.id
  matched : ∀ switch {network subnet}, sync.outside.Reports network subnet →
    Matches sync.topology.leaves switch subnet (site.store.bindings.row? switch subnet.id)
      (lastLeafCall site.record switch subnet.networkId)
  ordered : ∀ switch {network subnet}, sync.outside.Reports network subnet →
    Ordered site.record switch subnet.networkId

theorem tied_start (empty : site.store.bindings = .empty) (unsent : site.record = []) : Tied sync site := by
  refine ⟨empty ▸ Bindings.settled_empty, ?_, ?_, ?_⟩
  · intro switch name present
    rw [empty, Bindings.row?_empty] at present
    cases present
  · intro switch network subnet _
    rw [empty, unsent]
    exact fun request absurd => by cases absurd
  · intro switch network subnet _ before sent after split
    simp [unsent] at split

theorem Tied.leafCall (tied : Tied sync site) (one : sync.outside.OneSubnet) {leaf : LeafSwitch}
    {network : String} {subnet : Subnet} (reported : sync.outside.Reports network subnet) {sent : Sent}
    (about : ∀ switch network, sent.isLeafCall switch network = true ↔ leaf.ip = switch ∧ subnet.networkId = network)
    (settled : after.store.bindings.Settled) (recorded : after.record = site.record ++ [sent])
    (others : ∀ switch name, ¬ (switch = leaf.ip ∧ name = subnet.id) →
      after.store.bindings.row? switch name = site.store.bindings.row? switch name)
    (follows : Follows (lastLeafCall site.record leaf.ip subnet.networkId) sent)
    (matched : Matches sync.topology.leaves leaf.ip subnet (after.store.bindings.row? leaf.ip subnet.id)
      (some sent)) : Tied sync after := by
  refine ⟨settled, ?_, ?_, ?_⟩
  · intro switch name present
    by_cases here : switch = leaf.ip ∧ name = subnet.id
    · exact ⟨network, subnet, reported, here.2⟩
    · rw [others switch name here] at present
      exact tied.known present
  · intro switch m other also
    rw [recorded, lastLeafCall_append]
    by_cases here : sent.isLeafCall switch other.networkId = true
    · obtain ⟨rfl, named⟩ := (about switch other.networkId).mp here
      rcases one.same_or_apart reported also with rfl | ⟨_, differ⟩
      · rw [if_pos here]
        exact matched
      · exact absurd named differ
    · rw [if_neg here, others]
      · exact tied.matched switch also
      · rintro ⟨rfl, named⟩
        rcases one.same_or_apart reported also with rfl | ⟨differ, _⟩
        · exact here ((about _ _).mpr ⟨rfl, rfl⟩)
        · exact differ named.symm
  · intro switch m other also
    rw [recorded]
    refine (tied.ordered switch also).append fun here => ?_
    obtain ⟨rfl, named⟩ := (about switch other.networkId).mp here
    rwa [← named]

theorem Tied.otherwise (tied : Tied sync site) (settled : after.store.bindings.Settled)
    (recorded : after.record = site.record ∨
      ∃ sent, after.record = site.record ++ [sent] ∧ ∀ switch network, sent.isLeafCall switch network = false)
    (same : ∀ switch name, carried after.store.bindings switch name = carried site.store.bindings switch name) :
    Tied sync after := by
  have last (switch network : String) :
      lastLeafCall after.record switch network = lastLeafCall site.record switch network := by
    rcases recorded with recorded | ⟨sent, recorded, other⟩
    · rw [recorded]
    · rw [recorded, lastLeafCall_append, other, if_neg Bool.false_ne_true]
  refine ⟨settled, ?_, ?_, ?_⟩
  · intro switch name present
    have carries : (carried after.store.bindings switch name).isSome := by simpa [carried] using present
    rw [same] at carries
    exact tied.known (by simpa [carried] using carries)
  · intro switch network subnet reported
    rw [last]
    exact (tied.matched switch reported).of_carried (same switch subnet.id)
  · intro switch network subnet reported
    rcases recorded with recorded | ⟨sent, recorded, other⟩
    · rw [recorded]
      exact tied.ordered switch reported
    · rw [recorded]
      refine (tied.ordered switch reported).append fun here => ?_
      rw [other] at here
      cases here

theorem Tied.move (tied : Tied sync site) (one : sync.outside.OneSubnet)
    (distinct : ∀ a ∈ sync.topology.leaves, ∀ b ∈ sync.topology.leaves, a.ip = b.ip → a = b)
    (move : Move sync goal site after) : Tied sync after := by
  have settled := move.settled tied.settled
  cases move with
  | heard => exact tied.otherwise settled (Or.inl rfl) fun _ _ => rfl
  | counted => exact tied.otherwise settled (Or.inl rfl) fun _ _ => rfl
  | drawn =>
      refine tied.otherwise settled (Or.inl rfl) fun switch name => ?_
      exact congrArg (carried · switch name) SegmentPool.bindings_drawn
  | @refused leaf subnet project vlan vni state known reported absent =>
      obtain ⟨network, reported⟩ := reported
      have before := tied.matched leaf.ip reported
      rw [absent] at before
      refine tied.leafCall one reported (fun _ _ => isLeafCall_push) settled rfl (fun _ _ _ => rfl) before ?_
      rw [Site.store_took, absent]
      exact fun request absurd => by cases absurd
  | @bound leaf subnet project vlan vni state known reported absent =>
      obtain ⟨network, reported⟩ := reported
      have before := tied.matched leaf.ip reported
      rw [absent] at before
      refine tied.leafCall one reported (fun _ _ => isLeafCall_push) settled rfl (fun switch name other => ?_)
        before ?_
      · exact (Bindings.row?_addLeaf absent switch name).trans (if_neg other)
      · rw [Site.bindings_withBindings, Bindings.row?_addLeaf absent, if_pos ⟨rfl, rfl⟩]
        exact ⟨leaf, known, rfl, project, vlan, vni, rfl, rfl, rfl⟩
  | @unbound leaf subnet binding project accepted state known reported present unrouted =>
      obtain ⟨network, reported⟩ := reported
      have before := tied.matched leaf.ip reported
      rw [present] at before
      obtain ⟨pushedOn, cabled, same, pushedFor, vlan, vni, isVlan, isVni, pushed⟩ := before
      obtain rfl := distinct _ cabled _ known same
      obtain rfl := Binding.vlan_of_row isVlan
      obtain rfl := Binding.l2_of_row isVni
      refine tied.leafCall one reported (fun _ _ => isLeafCall_retract) settled rfl (fun switch name other => ?_)
        ⟨_, pushed, rfl⟩ ?_
      · exact (Bindings.row?_without switch name).trans (if_neg other)
      · rw [Site.bindings_withBindings, Bindings.row?_without, if_pos ⟨rfl, rfl⟩]
        exact fun request absurd => by cases absurd
  | attachRefused => exact tied.otherwise settled (Or.inr ⟨_, rfl, fun _ _ => rfl⟩) fun _ _ => rfl
  | attached => exact tied.otherwise settled (Or.inr ⟨_, rfl, fun _ _ => rfl⟩) carried_route
  | detached => exact tied.otherwise settled (Or.inr ⟨_, rfl, fun _ _ => rfl⟩) carried_route

theorem Tied.moves (tied : Tied sync site) (one : sync.outside.OneSubnet)
    (distinct : ∀ a ∈ sync.topology.leaves, ∀ b ∈ sync.topology.leaves, a.ip = b.ip → a = b)
    (moves : Moves sync goal site after) : Tied sync after := by
  induction moves with
  | refl => exact tied
  | tail _ move ih => exact ih.move one distinct move

theorem tied_reaches {start : Site ω} (alone : sync.outside.Alone) (one : sync.outside.OneSubnet)
    (distinct : ∀ a ∈ sync.topology.leaves, ∀ b ∈ sync.topology.leaves, a.ip = b.ip → a = b)
    (tied : Tied sync start) (reached : Reaches sync (fun event _ => event.isOnLeaves = true) start site) :
    Tied sync site := by
  induction reached with
  | start => exact tied
  | step _ onLeaves ih => exact ih.moves one distinct (moves_after alone ih.settled onLeaves)

/-- On every leaf a subnet is configured once: what the binding table tells is what was last done, no
two pushes take effect without a retraction in between, and a retraction takes back what was pushed. -/
theorem configured_once {configuration : Configuration} (cabled : sync.topology = .ofConfiguration configuration)
    (alone : sync.outside.Alone) (one : sync.outside.OneSubnet) {start : Site ω}
    (empty : start.store.bindings = .empty) (unsent : start.record = [])
    (reached : Reaches sync (fun event _ => event.isOnLeaves = true) start site) :
    (∀ row ∈ site.store.bindings.rows, row.configured = true ∧
      (∃ network subnet, sync.outside.Reports network subnet ∧ row.subnet = subnet.id) ∧
      ∀ other ∈ site.store.bindings.rows, other.switch = row.switch → other.subnet = row.subnet → other = row) ∧
    ∀ switch network subnet, sync.outside.Reports network subnet →
      ((∃ row ∈ site.store.bindings.rows, row.switch = switch ∧ row.subnet = subnet.id) ↔
        ∃ request, lastLeafCall site.record switch subnet.networkId = some ⟨.pushL2 request, true⟩) ∧
      (∀ before between rest first second,
        site.record = before ++ ⟨.pushL2 first, true⟩ :: (between ++ ⟨.pushL2 second, true⟩ :: rest) →
        Sent.isLeafCall switch subnet.networkId ⟨.pushL2 first, true⟩ = true →
        Sent.isLeafCall switch subnet.networkId ⟨.pushL2 second, true⟩ = true →
        ∃ sent ∈ between, sent.isLeafCall switch subnet.networkId = true ∧
          ∃ request, sent.call = .retractL2 request) ∧
      ∀ before accepted request rest, site.record = before ++ ⟨.retractL2 request, accepted⟩ :: rest →
        Sent.isLeafCall switch subnet.networkId ⟨.retractL2 request, accepted⟩ = true →
        ∃ pushed, lastLeafCall before switch subnet.networkId = some ⟨.pushL2 pushed, true⟩ ∧
          request = { pushed with projectId := request.projectId } := by
  have distinct : ∀ a ∈ sync.topology.leaves, ∀ b ∈ sync.topology.leaves, a.ip = b.ip → a = b := by
    rw [cabled]
    exact fun a first b second => Topology.ip_injective first second
  have tied := tied_reaches alone one distinct (tied_start empty unsent) reached
  refine ⟨fun row member => ⟨?_, ?_, ?_⟩, fun switch network subnet reported => ⟨?_, ?_, ?_⟩⟩
  · obtain ⟨binding, good, rfl⟩ := tied.settled row member
    exact good.configured
  · have present : (site.store.bindings.row? row.switch row.subnet).isSome := by
      rw [Bindings.mem_rows_iff.mp member]
      rfl
    exact tied.known present
  · exact fun other second switch subnet => Bindings.eq_of_same second member switch subnet
  · have matched := tied.matched switch reported
    cases found : site.store.bindings.row? switch subnet.id with
    | some row =>
        rw [found] at matched
        obtain ⟨leaf, _, _, project, vlan, vni, _, _, pushed⟩ := matched
        have ⟨member, named⟩ := Bindings.row?_eq_some_iff.mp found
        exact ⟨fun _ => ⟨_, pushed⟩, fun _ => ⟨row, member, named⟩⟩
    | none =>
        rw [found] at matched
        refine ⟨fun ⟨row, member, named⟩ => ?_, fun ⟨request, pushed⟩ => absurd pushed (matched request)⟩
        cases found.symm.trans (Bindings.row?_eq_some_iff.mpr ⟨member, named⟩)
  · exact fun _ _ _ _ _ split begins ends => (tied.ordered switch reported).retracted split begins ends
  · exact fun before _ _ rest split about => tied.ordered switch reported before _ rest split about

theorem configured_once_for_port :
    let subnet : Subnet := ⟨"inner", "net", "10.1.0.0/24", none⟩
    let sync : Synchronizer Unit :=
      ⟨.small subnet none, .ofConfiguration .small, .ofRanges ⟨.empty, .empty, .empty⟩, []⟩
    let port : Port := ⟨"port", "net", "tenant", "compute:x", "host", .active⟩
    let segments : PortSegments := ⟨⟨7, by decide, by decide⟩, ⟨5, by decide, by decide⟩, "blue"⟩
    ∃ request, lastLeafCall (sync.after (.portBound port segments) ⟨{}, [], ()⟩).record "10.0.0.1" "net" =
      some ⟨.pushL2 request, true⟩ := by
  intro subnet sync port segments
  have reached : Reaches sync (fun event _ => event.isOnLeaves = true) ⟨{}, [], ()⟩
      (sync.after (.portBound port segments) ⟨{}, [], ()⟩) := .step .start rfl
  obtain ⟨_, pairs⟩ := configured_once rfl Outside.alone_small Outside.oneSubnet_small rfl rfl reached
  have reported : sync.outside.Reports "net" subnet := ⟨(), _, rfl, .head _⟩
  refine (pairs "10.0.0.1" "net" subnet reported).1.mp ?_
  decide

end Synchronizer
end OverlayFabric
