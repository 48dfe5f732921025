import OverlayFabric.Proofs.Address.Spelling
import OverlayFabric.Proofs.Configuration.Ranges

namespace OverlayFabric
open Text

structure Demand where
  field : String
  Refuses : String → Prop

namespace Demand

def Met (demand : Demand) : Prop := ∀ reason, ¬ demand.Refuses reason

inductive Faults : List Demand → SyncError → Prop where
  | here {demand : Demand} {rest : List Demand} {reason : String} (refuses : demand.Refuses reason) :
      Faults (demand :: rest) (.configuration demand.field reason)
  | later {demand : Demand} {rest : List Demand} {e : SyncError} (met : demand.Met) (faults : Faults rest e) :
      Faults (demand :: rest) e

variable {α β : Type} {demand : Demand} {demands others rest : List Demand} {e : SyncError} {x : Except SyncError α}
  {next : α → Except SyncError β}

@[simp] theorem not_faults_nil : ¬ Faults [] e := nofun

theorem faults_cons : Faults (demand :: rest) e ↔
    (∃ reason, demand.Refuses reason ∧ e = .configuration demand.field reason) ∨ demand.Met ∧ Faults rest e := by
  constructor
  · intro faults
    cases faults with
    | here refuses => exact .inl ⟨_, refuses, rfl⟩
    | later met faults => exact .inr ⟨met, faults⟩
  · rintro (⟨reason, refuses, rfl⟩ | ⟨met, faults⟩)
    · exact .here refuses
    · exact .later met faults

theorem faults_append : Faults (demands ++ others) e ↔
    Faults demands e ∨ (∀ demand ∈ demands, demand.Met) ∧ Faults others e := by
  induction demands with
  | nil => simp
  | cons demand rest ih =>
      simp only [List.cons_append, faults_cons, ih, List.forall_mem_cons, and_or_left, or_assoc, and_assoc]

theorem met_iff_no_faults : (∀ demand ∈ demands, demand.Met) ↔ ∀ e, ¬ Faults demands e := by
  induction demands with
  | nil => simp
  | cons demand rest ih =>
      rw [List.forall_mem_cons, ih]
      constructor
      · rintro ⟨met, none⟩ e faults
        rcases faults_cons.mp faults with ⟨reason, refuses, -⟩ | ⟨-, later⟩
        · exact met reason refuses
        · exact none e later
      · intro none
        have met : demand.Met := fun reason refuses => none _ (.here refuses)
        exact ⟨met, fun e faults => none e (.later met faults)⟩

/-- The computation fails just when one of the demands is not met, and reports the first. -/
def Enforces (x : Except SyncError α) (demands : List Demand) : Prop := ∀ e, x = .error e ↔ Faults demands e

theorem Enforces.passes (enforces : Enforces x demands) :
    (∃ value, x = .ok value) ↔ ∀ demand ∈ demands, demand.Met := by
  rw [met_iff_no_faults]
  simp only [← enforces _]
  cases x <;> simp

theorem enforces_ok {value : α} : Enforces (.ok value : Except SyncError α) [] := by simp [Enforces]

theorem enforces_one
    (refused : ∀ e, x = .error e ↔ ∃ reason, demand.Refuses reason ∧ e = .configuration demand.field reason) :
    Enforces x [demand] := by
  intro e
  simp [refused, faults_cons]

theorem Enforces.bind (first : Enforces x demands) (later : ∀ value, x = .ok value → Enforces (next value) others) :
    Enforces (x >>= next) (demands ++ others) := by
  intro e
  rw [Result.bind_eq_error, faults_append, first e, ← first.passes]
  apply or_congr_right
  constructor
  · rintro ⟨value, found, failed⟩
    exact ⟨⟨value, found⟩, (later value found e).mp failed⟩
  · rintro ⟨⟨value, found⟩, faults⟩
    exact ⟨value, found, (later value found e).mpr faults⟩

theorem Enforces.step (first : Enforces x [demand]) (later : ∀ value, Enforces (next value) rest) :
    Enforces (x >>= next) (demand :: rest) := first.bind fun value _ => later value

theorem Enforces.finish {f : α → β} (enforces : Enforces x demands) :
    Enforces (x >>= fun value => .ok (f value)) demands := by
  have whole := enforces.bind fun value _ => @enforces_ok _ (f value)
  rwa [List.append_nil] at whole

end Demand

/-! ## The demands -/

def Blank (text : String) : Prop := ∀ c ∈ text.toList, isBlank c = true

/-- Every entry spells a range within the bounds, and together they have a million identifiers at most. -/
def Readable (bounds : PoolBounds) (lines : List String) : Prop :=
  (∀ token ∈ tokens (lines.map String.toList), ∃ range, Spells bounds token range) ∧
    (spelled bounds (lines.map String.toList)).ncard ≤ 1000000

def rangeDemand (field : String) (bounds : PoolBounds) (lines : List String) : Demand where
  field := field
  Refuses reason := ∃ fault, Refused bounds (lines.map String.toList) fault ∧ reason = fault.message

def switchDemand (table switch : String) : Demand where
  field := table
  Refuses reason := (∀ address, ¬ Address.Spells switch.toList address) ∧
    reason = s!"'{switch}' is not a switch IP address"

def nameDemand (field complaint : String) (names : List String) : Demand where
  field := field
  Refuses reason := (∃ name ∈ names, Blank name) ∧ reason = complaint

def leafDemands : String × LeafSettings → List Demand
  | (switch, leaf) => [
      switchDemand "leaf_switches" switch,
      nameDemand s!"leaf_switches.{switch}.physnet" "empty physical network" leaf.physnet.toList,
      nameDemand s!"leaf_switches.{switch}.host_ports_mapping" "empty host name" leaf.hostPorts.keys]

def borderDemands : String × BorderSettings → List Demand
  | (switch, border) => [
      switchDemand "border_switches" switch,
      nameDemand s!"border_switches.{switch}.physical_network_ports_mapping" "empty physical network"
        border.physnetPorts.keys,
      rangeDemand s!"border_switches.{switch}.vlan_ranges" .borderVlan border.vlanRanges]

/-- Everything that is demanded of a configuration, in the order in which it is reported. -/
def Configuration.demands (configuration : Configuration) : List Demand :=
  rangeDemand "pools.l2_segment_ranges" .l2Segment configuration.pools.l2Ranges ::
    rangeDemand "pools.l3_segment_ranges" .l3Segment configuration.pools.l3Ranges ::
    (configuration.leafSwitches.pairs.flatMap leafDemands ++ configuration.borderSwitches.pairs.flatMap borderDemands)

variable {field table switch complaint : String} {bounds : PoolBounds} {lines names : List String}
  {leaves : List (String × LeafSettings)} {borders : List (String × BorderSettings)} {found : List (String × RangeSet)}
  {configuration : Configuration} {ranges : PoolRanges} {set : RangeSet} {id : Nat}

open Demand

/-! ## The checks enforce the demands -/

theorem enforces_checkRanges : Enforces (checkRanges field bounds lines) [rangeDemand field bounds lines] := by
  refine enforces_one fun e => ?_
  unfold checkRanges
  simp only [rangeDemand, ← readRanges_eq_error]
  cases readRanges bounds (lines.map String.toList) <;> simp [eq_comm]

theorem enforces_checkSwitch : Enforces (checkSwitch table switch) [switchDemand table switch] := by
  refine enforces_one fun e => ?_
  unfold checkSwitch
  simp only [switchDemand, ← Address.read?_eq_some]
  cases Address.read? switch.toList <;> simp [eq_comm]

theorem isBlankText_iff {text : String} : isBlankText text = true ↔ Blank text := by
  rw [isBlankText, List.isEmpty_iff, trim_eq_nil, Blank]

theorem enforces_checkNames : Enforces (checkNames field complaint names) [nameDemand field complaint names] := by
  refine enforces_one fun e => ?_
  have any : names.any isBlankText = true ↔ ∃ name ∈ names, Blank name := by simp [isBlankText_iff]
  unfold checkNames
  simp only [nameDemand, ← any, and_assoc, exists_and_left, exists_eq_left]
  split
  · next blank => rw [and_iff_right blank, Except.error.injEq, eq_comm]
  · next none => exact iff_of_false nofun fun both => none both.1

theorem enforces_checkLeaves : Enforces (checkLeaves leaves) (leaves.flatMap leafDemands) := by
  induction leaves with
  | nil => exact enforces_ok
  | cons leaf rest ih =>
      have first : Enforces (checkLeaf leaf.1 leaf.2) (leafDemands leaf) :=
        enforces_checkSwitch.step fun _ => enforces_checkNames.step fun _ => enforces_checkNames
      exact first.bind fun _ _ => ih

theorem enforces_checkBorders : Enforces (checkBorders borders) (borders.flatMap borderDemands) := by
  induction borders with
  | nil => exact enforces_ok
  | cons border rest ih =>
      have first : Enforces (checkBorder border.1 border.2) (borderDemands border) :=
        enforces_checkSwitch.step fun _ => enforces_checkNames.step fun _ => enforces_checkRanges
      exact first.bind fun _ _ => ih.finish

theorem Configuration.enforces_check : Enforces configuration.check configuration.demands :=
  enforces_checkRanges.step fun _ => enforces_checkRanges.step fun _ =>
    enforces_checkLeaves.bind fun _ _ => enforces_checkBorders.finish

/-! ## A valid configuration -/

structure LeafSettings.Valid (switch : String) (leaf : LeafSettings) : Prop where
  key : ∃ address, Address.Spells switch.toList address
  physnet : ∀ physnet, leaf.physnet = some physnet → ¬ Blank physnet
  hosts : ∀ host ∈ leaf.hostPorts.keys, ¬ Blank host

structure BorderSettings.Valid (switch : String) (border : BorderSettings) : Prop where
  key : ∃ address, Address.Spells switch.toList address
  physnets : ∀ physnet ∈ border.physnetPorts.keys, ¬ Blank physnet
  ranges : Readable .borderVlan border.vlanRanges

structure Configuration.Valid (configuration : Configuration) : Prop where
  l2 : Readable .l2Segment configuration.pools.l2Ranges
  l3 : Readable .l3Segment configuration.pools.l3Ranges
  leaves : ∀ switch leaf, (switch, leaf) ∈ configuration.leafSwitches.pairs → leaf.Valid switch
  borders : ∀ switch border, (switch, border) ∈ configuration.borderSwitches.pairs → border.Valid switch

theorem met_rangeDemand : (rangeDemand field bounds lines).Met ↔ Readable bounds lines := by
  rw [Readable, ← (reads_union_of_entries bounds _).2.1]
  simp only [Met, rangeDemand, ← readRanges_eq_error]
  cases readRanges bounds (lines.map String.toList) <;> simp

theorem met_switchDemand : (switchDemand table switch).Met ↔ ∃ address, Address.Spells switch.toList address := by
  simp [Met, switchDemand]

theorem met_nameDemand : (nameDemand field complaint names).Met ↔ ∀ name ∈ names, ¬ Blank name := by
  constructor
  · exact fun met name listed blank => met complaint ⟨⟨name, listed, blank⟩, rfl⟩
  · rintro none reason ⟨⟨name, listed, blank⟩, rfl⟩
    exact none name listed blank

theorem Configuration.met_iff_valid : (∀ demand ∈ configuration.demands, demand.Met) ↔ configuration.Valid := by
  simp only [demands, List.forall_mem_cons, List.forall_mem_append, List.forall_mem_flatMap, leafDemands, borderDemands,
    met_rangeDemand, met_switchDemand, met_nameDemand, List.not_mem_nil, false_implies, implies_true, and_true,
    Option.mem_toList]
  constructor
  · rintro ⟨l2, l3, leaves, borders⟩
    refine ⟨l2, l3, fun switch leaf member => ?_, fun switch border member => ?_⟩
    · obtain ⟨key, physnet, hosts⟩ := leaves _ member
      exact ⟨key, physnet, hosts⟩
    · obtain ⟨key, physnets, ranges⟩ := borders _ member
      exact ⟨key, physnets, ranges⟩
  · rintro ⟨l2, l3, leaves, borders⟩
    refine ⟨l2, l3, fun leaf member => ?_, fun border member => ?_⟩
    · obtain ⟨key, physnet, hosts⟩ := leaves _ _ member
      exact ⟨key, physnet, hosts⟩
    · obtain ⟨key, physnets, ranges⟩ := borders _ _ member
      exact ⟨key, physnets, ranges⟩

/-! ## The ranges that are returned -/

theorem few_of_readRanges {lines : List (List Char)} (read : readRanges bounds lines = .ok set) :
    set.ids.length ≤ 1000000 := by
  obtain ⟨_, few, union⟩ := readRanges_eq_ok.mp read
  rwa [RangeSet.length_ids, size_of_union union]

theorem keys_of_ranges (sets : List.Forall₂ ReadAs borders found) : found.map Prod.fst = borders.map Prod.fst := by
  induction sets with
  | nil => rfl
  | cons first rest ih => rw [List.map_cons, List.map_cons, first.1, ih]

/-- What holds of the ranges that are returned for a configuration: each set is what its lines spell, a border
leaf has one just when it is configured, and every identifier is one of its pool. -/
structure PoolRanges.Guards (ranges : PoolRanges) (configuration : Configuration) : Prop where
  l2 : ∀ id, id ∈ ranges.l2.ids ↔ id ∈ spelled .l2Segment (configuration.pools.l2Ranges.map String.toList)
  l3 : ∀ id, id ∈ ranges.l3.ids ↔ id ∈ spelled .l3Segment (configuration.pools.l3Ranges.map String.toList)
  border : List.Forall₂ (fun border pair => pair.1 = border.1 ∧ ∀ id, id ∈ pair.2.ids ↔
    id ∈ spelled .borderVlan (border.2.vlanRanges.map String.toList)) configuration.borderSwitches.pairs ranges.border.pairs
  keys : ranges.border.keys = configuration.borderSwitches.keys
  l2Valid : ∀ id ∈ ranges.l2.ids, 4096 ≤ id ∧ ∃ segment, SegmentId.check id = .ok segment
  l3Valid : ∀ id ∈ ranges.l3.ids, ∃ segment, SegmentId.check id = .ok segment
  borderValid : ∀ set ∈ ranges.border.values, ∀ id ∈ set.ids, ∃ vlan, VlanId.check id = .ok vlan
  few : ∀ set ∈ ranges.l2 :: ranges.l3 :: ranges.border.values, set.ids.length ≤ 1000000

theorem SegmentId.check_of_bounds (low : 1 ≤ id) (high : id ≤ 16777215) : ∃ segment, SegmentId.check id = .ok segment :=
  ⟨⟨id, low, high⟩, by simp [check, ofNat?, low, high]⟩

theorem VlanId.check_of_bounds (low : 1 ≤ id) (high : id ≤ 4094) : ∃ vlan, VlanId.check id = .ok vlan :=
  ⟨⟨id, low, high⟩, by simp [check, ofNat?, low, high]⟩

theorem mem_ids_of_readRanges {lines : List (List Char)} (read : readRanges bounds lines = .ok set) :
    id ∈ set.ids ↔ id ∈ spelled bounds lines := RangeSet.mem_ids.trans ((readRanges_eq_ok.mp read).2.2 id)

theorem Configuration.guards_of_check (checked : configuration.check = .ok ranges) : ranges.Guards configuration := by
  obtain ⟨l2, readL2, checked⟩ := Result.bind_eq_ok.mp checked
  obtain ⟨l3, readL3, checked⟩ := Result.bind_eq_ok.mp checked
  obtain ⟨_, _, checked⟩ := Result.bind_eq_ok.mp checked
  obtain ⟨border, readBorder, checked⟩ := Result.bind_eq_ok.mp checked
  cases checked
  rw [checkRanges_eq_ok] at readL2 readL3
  have sets := ranges_of_checkBorders readBorder
  have keys : border.map Prod.fst = configuration.borderSwitches.keys := keys_of_ranges sets
  have pairs : (Keyed.ofList border).pairs = border := by
    have ascending := List.pairwise_map.mpr configuration.borderSwitches.sorted
    rw [← Keyed.keys, ← keys, List.pairwise_map] at ascending
    exact Keyed.pairs_ofList ascending
  have reads : ∀ set ∈ (Keyed.ofList border).values, ∃ lines, readRanges .borderVlan lines = .ok set := by
    intro set listed
    rw [Keyed.values, pairs] at listed
    obtain ⟨pair, member, rfl⟩ := List.mem_map.mp listed
    exact read_of_ranges sets pair member
  exact {
    l2 := fun id => mem_ids_of_readRanges readL2
    l3 := fun id => mem_ids_of_readRanges readL3
    border := by
      rw [pairs]
      exact sets.imp fun _ _ both => ⟨both.1, fun id => mem_ids_of_readRanges both.2⟩
    keys := by rw [Keyed.keys, pairs, keys]
    l2Valid := by
      intro id member
      obtain ⟨low, high⟩ := bounds_of_readRanges readL2 (RangeSet.mem_ids.mp member)
      exact ⟨low, SegmentId.check_of_bounds (Nat.le_trans (by decide) low) high⟩
    l3Valid := by
      intro id member
      obtain ⟨low, high⟩ := bounds_of_readRanges readL3 (RangeSet.mem_ids.mp member)
      exact SegmentId.check_of_bounds low high
    borderValid := by
      intro set listed id member
      obtain ⟨lines, read⟩ := reads set listed
      obtain ⟨low, high⟩ := bounds_of_readRanges read (RangeSet.mem_ids.mp member)
      exact VlanId.check_of_bounds low high
    few := by
      rw [List.forall_mem_cons, List.forall_mem_cons]
      refine ⟨few_of_readRanges readL2, few_of_readRanges readL3, fun set listed => ?_⟩
      obtain ⟨lines, read⟩ := reads set listed
      exact few_of_readRanges read }

/-- A configuration passes its check exactly when it is valid, and otherwise the first demand that is not met is
reported. The ranges of one that passes guard the pools. -/
theorem Configuration.check_exact (configuration : Configuration) :
    ((∃ ranges, configuration.check = .ok ranges) ↔ configuration.Valid) ∧
      (∀ e, configuration.check = .error e ↔ Demand.Faults configuration.demands e) ∧
      ∀ ranges, configuration.check = .ok ranges → ranges.Guards configuration :=
  ⟨configuration.enforces_check.passes.trans met_iff_valid, configuration.enforces_check, fun _ => guards_of_check⟩

theorem Configuration.check_exact_of_blank_host :
    let leaf : LeafSettings := { hostPorts := .ofList [("compute-1", ["swp1"])] }
    let blank : LeafSettings := { hostPorts := .ofList [(" ", ["swp2"])] }
    let border : BorderSettings := { vlanRanges := [" 100:103 ,"] }
    let configuration : Configuration :=
      { pools.l2Ranges := ["5000:5001"], leafSwitches := .ofList [("10.0.0.1", leaf)],
        borderSwitches := .ofList [("2001:db8::8", border)] }
    let faulty : Configuration :=
      { configuration with
        leafSwitches := .ofList [("10.0.0.1", leaf), ("10.0.0.2", blank)]
        borderSwitches := .ofList [("border", border)] }
    (∃ ranges, configuration.check = .ok ranges ∧ ranges.Guards configuration) ∧ configuration.Valid ∧
      Demand.Faults faulty.demands (.configuration "leaf_switches.10.0.0.2.host_ports_mapping" "empty host name") := by
  intro leaf blank border configuration faulty
  let ranges : PoolRanges :=
    { l2 := { ranges := [⟨5000, 5001, by decide⟩] }, l3 := { ranges := [] },
      border := .ofList [("2001:db8::8", { ranges := [⟨100, 103, by decide⟩] })] }
  have passed : configuration.check = .ok ranges := by decide +kernel
  obtain ⟨exact_, -, guards⟩ := configuration.check_exact
  exact ⟨⟨ranges, passed, guards ranges passed⟩, exact_.mp ⟨ranges, passed⟩,
    (faulty.check_exact.2.1 _).mp (by decide +kernel)⟩

end OverlayFabric
