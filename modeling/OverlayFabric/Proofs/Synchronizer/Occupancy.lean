import OverlayFabric.Proofs.Synchronizer.Reachable

namespace OverlayFabric

theorem Configuration.hosts_named {configuration : Configuration} {ranges : PoolRanges}
    (checked : configuration.check = .ok ranges) {leaf : LeafSwitch}
    (known : leaf ∈ (Topology.ofConfiguration configuration).leaves) : "" ∉ leaf.hosts := by
  have listed {pairs : List (String × LeafSettings)} (passed : checkLeaves pairs = .ok ()) {pair : String × LeafSettings}
      (member : pair ∈ pairs) : checkLeaf pair.1 pair.2 = .ok () := by
    induction pairs with
    | nil => cases member
    | cons first rest ih =>
        obtain ⟨_, one, others⟩ := Result.bind_eq_ok.mp passed
        cases member with
        | head => exact one
        | tail _ member => exact ih others member
  obtain ⟨_, _, passed⟩ := Result.bind_eq_ok.mp checked
  obtain ⟨_, _, passed⟩ := Result.bind_eq_ok.mp passed
  obtain ⟨_, leaves, _⟩ := Result.bind_eq_ok.mp passed
  obtain ⟨pair, member, rfl⟩ := List.mem_map.mp known
  obtain ⟨_, _, passed⟩ := Result.bind_eq_ok.mp (listed leaves member)
  obtain ⟨_, _, names⟩ := Result.bind_eq_ok.mp passed
  intro empty
  have blank : pair.2.hostPorts.keys.any isBlankText = true := List.any_eq_true.mpr ⟨"", empty, by decide⟩
  unfold checkNames at names
  rw [if_pos blank] at names
  cases names

namespace Synchronizer

structure Bound where
  port : Port
  segments : PortSegments

/-- A cloud, before any fabric, that tells which ports it lists and the one subnet of every network. -/
structure Listing (ω : Type) where
  outside : List Bound → Outside ω
  subnetOf : String → Subnet
  alone : ∀ listed, (outside listed).Alone
  subnets : ∀ listed network state, ((outside listed).ask (.subnetsOf network) state).1 = .ok [subnetOf network]
  ports : ∀ listed hosts subnet state, ((outside listed).ask (.ports hosts subnet) state).1 =
    .ok ((listed.map Bound.port).filter fun port => hosts.contains port.hostId && (subnetOf port.networkId).id == subnet)

variable {ω : Type} {listing : Listing ω} {configuration : Configuration} {ranges : PoolRanges} {start site : Site ω}
  {listed gone : List Bound} {bound : Bound} {event : PortEvent} {switch subnet : String} {topology : Topology}

def Listing.sync (listing : Listing ω) (configuration : Configuration) (ranges : PoolRanges) (listed : List Bound) :
    Synchronizer ω :=
  ofConfiguration configuration ranges (listing.outside listed)

structure Tells (event : PortEvent) (bound : Bound) : Prop where
  port : event.port = bound.port
  segments : event.segments = some bound.segments

/-- Ports appear, active, and are dropped again, each with its event; those that are gone, the last first. -/
inductive Peopled (listing : Listing ω) (configuration : Configuration) (ranges : PoolRanges) (start : Site ω) :
    List Bound → List Bound → Site ω → Prop where
  | start : Peopled listing configuration ranges start [] [] start
  | appeared {listed gone : List Bound} {site : Site ω} {bound : Bound} {event : PortEvent}
      (earlier : Peopled listing configuration ranges start listed gone site) (tells : Tells event bound)
      (active : bound.port.status = .active) :
      Peopled listing configuration ranges start (bound :: listed) gone
        ((listing.sync configuration ranges (bound :: listed)).after (.portUpdated event) site)
  | dropped {listed rest gone : List Bound} {site : Site ω} {bound : Bound} {event : PortEvent}
      (earlier : Peopled listing configuration ranges start listed gone site) (tells : Tells event bound)
      (left : listed.Perm (bound :: rest)) :
      Peopled listing configuration ranges start rest (bound :: gone)
        ((listing.sync configuration ranges rest).after (.portDeleted event) site)

def Occupies (topology : Topology) (subnetOf : String → Subnet) (switch subnet : String) (bound : Bound) : Prop :=
  (subnetOf bound.port.networkId).id = subnet ∧ ∃ leaf ∈ topology.leaves, leaf.ip = switch ∧ bound.port.hostId ∈ leaf.hosts

/-- When the port is deleted, the switch is not looked at. -/
def PassedOver (topology : Topology) (switch : String) (bound : Bound) : Prop :=
  bound.port.ownerClass.isSupported = false ∨
    ∃ leaf ∈ topology.leaves, leaf.ip = switch ∧ bound.port.hostId ∈ leaf.hosts ∧
      leaf.serves bound.segments.physicalNetwork = false

/-- A listed port needs the row, or the last port gone that did was passed over. -/
def Accounted (topology : Topology) (subnetOf : String → Subnet) (listed gone : List Bound) (switch subnet : String) :
    Prop :=
  (∃ bound ∈ listed, Occupies topology subnetOf switch subnet bound) ∨
    ∃ later bound earlier, gone = later ++ bound :: earlier ∧
      (∀ other ∈ later, ¬Occupies topology subnetOf switch subnet other) ∧
      Occupies topology subnetOf switch subnet bound ∧ PassedOver topology switch bound

theorem Accounted.appeared {subnetOf : String → Subnet} (accounted : Accounted topology subnetOf listed gone switch subnet) :
    Accounted topology subnetOf (bound :: listed) gone switch subnet := by
  refine accounted.imp_left ?_
  rintro ⟨other, member, occupies⟩
  exact ⟨other, .tail _ member, occupies⟩

theorem Accounted.dropped {subnetOf : String → Subnet} {rest : List Bound}
    (accounted : Accounted topology subnetOf listed gone switch subnet) (left : listed.Perm (bound :: rest))
    (apart : ¬Occupies topology subnetOf switch subnet bound) :
    Accounted topology subnetOf rest (bound :: gone) switch subnet := by
  rcases accounted with ⟨other, member, occupies⟩ | ⟨later, last, earlier, rfl, none, occupies, passed⟩
  · left
    rcases List.mem_cons.mp (left.mem_iff.mp member) with rfl | member
    · exact absurd occupies apart
    · exact ⟨other, member, occupies⟩
  · right
    refine ⟨bound :: later, last, earlier, rfl, fun other member => ?_, occupies, passed⟩
    cases member with
    | head => exact apart
    | tail _ member => exact none other member

theorem mem_leavesOf {leaf : LeafSwitch} {host : String} :
    leaf ∈ topology.leavesOf host ↔ leaf ∈ topology.leaves ∧ host ∈ leaf.hosts := by
  rw [Topology.leavesOf, List.mem_filter, Keyed.contains_iff]
  rfl

theorem Listing.reports {network : String} {subnet : Subnet}
    (reported : (listing.outside listed).Reports network subnet) : subnet = listing.subnetOf network := by
  obtain ⟨state, subnets, told, member⟩ := reported
  rw [listing.subnets] at told
  cases told
  exact List.mem_singleton.mp member

theorem leads_updatePort_tells {sync : Synchronizer ω} (alone : sync.outside.Alone)
    (settled : site.store.bindings.Settled) (tells : Tells event bound) (active : bound.port.status = .active) :
    Task.Leads (sync.updatePort event) site fun _ after => after.store.bindings = site.store.bindings ∨
      ∃ subnet, sync.outside.Reports bound.port.networkId subnet ∧
        KeepsRowsBut (sync.leavesFor bound.port bound.segments) subnet.id site.store.bindings after.store.bindings := by
  have steady : event.isMigrating = false := by
    unfold PortEvent.isMigrating
    rw [tells.segments]
    cases event.previous <;> rfl
  have up : bound.port.status.isDown = false := by
    rw [active]
    rfl
  unfold updatePort
  simp only [steady, up, tells.port, tells.segments, Bool.or_self, Bool.false_eq_true, if_false]
  split
  · apply (leads_configure alone settled).mono
    intro _ after ⟨_, changed⟩
    refine changed.imp_right ?_
    rintro ⟨subnet, _, told, kept, _⟩
    exact ⟨subnet, ⟨site.outside, _, told, .head _⟩, kept⟩
  · exact Or.inl rfl

theorem mem_of_appeared (settled : site.store.bindings.Settled) (tells : Tells event bound)
    (active : bound.port.status = .active) {row : BindingRow}
    (member : row ∈ ((listing.sync configuration ranges listed).after (.portUpdated event) site).store.bindings.rows) :
    (∃ before ∈ site.store.bindings.rows, before.switch = row.switch ∧ before.subnet = row.subnet) ∨
      Occupies (.ofConfiguration configuration) listing.subnetOf row.switch row.subnet bound := by
  let sync := listing.sync configuration ranges listed
  have leads := leads_silently (@leads_updatePort_tells _ _ _ _ sync (listing.alone listed) settled tells active)
  rcases leads with same | ⟨subnet, reported, kept⟩
  · exact Or.inl ⟨row, same ▸ member, rfl, rfl⟩
  · have found := Bindings.mem_rows_iff.mp member
    rcases kept row.switch row.subnet with before | ⟨named, leaf, among, switch⟩
    · exact Or.inl ⟨row, Bindings.mem_rows_iff.mpr (before.symm.trans found), rfl, rfl⟩
    · have cabled := mem_leavesOf.mp (List.mem_of_mem_filter among)
      rw [Listing.reports reported] at named
      exact Or.inr ⟨named.symm, leaf, cabled.1, switch, cabled.2⟩

theorem store_portDeleted_of_ignored {sync : Synchronizer ω} (tells : Tells event bound)
    (ignored : bound.port.ownerClass.isSupported = false) : (sync.after (.portDeleted event) site).store = site.store := by
  have nothing : sync.deletePort event = pure () := by
    unfold deletePort
    rw [tells.port, ignored]
    rfl
  unfold after
  rw [show sync.handle (.portDeleted event) = silently (pure ()) from congrArg silently nothing]
  rfl

theorem vacates_portDeleted {sync : Synchronizer ω} (alone : sync.outside.Alone)
    (settled : site.store.bindings.Settled) (tells : Tells event bound)
    (supported : bound.port.ownerClass.isSupported = true) : ∃ leaves subnet,
      Vacates sync none leaves bound.port subnet site (sync.after (.portDeleted event) site) ∧
        (bound.port.hostId ≠ "" → ∀ first rest,
          (sync.outside.ask (.subnetsOf bound.port.networkId) site.outside).1 = .ok (first :: rest) →
          leaves = sync.leavesFor bound.port bound.segments ∧ subnet = first.id) := by
  have unconfigures : sync.deletePort event = sync.unconfigure bound.port bound.segments := by
    unfold deletePort
    rw [tells.port, supported, tells.segments]
    rfl
  have vacates := leads_silently (@leads_unconfigure _ sync none site alone settled bound.port bound.segments)
  rw [← unconfigures] at vacates
  exact vacates

theorem mem_of_dropped (checked : configuration.check = .ok ranges) (settled : site.store.bindings.Settled)
    (tells : Tells event bound) {row : BindingRow}
    (member : row ∈ ((listing.sync configuration ranges listed).after (.portDeleted event) site).store.bindings.rows) :
    row ∈ site.store.bindings.rows ∧
      (Occupies (.ofConfiguration configuration) listing.subnetOf row.switch row.subnet bound →
        PassedOver (.ofConfiguration configuration) row.switch bound ∨ ∃ other ∈ listed,
          Occupies (.ofConfiguration configuration) listing.subnetOf row.switch row.subnet other) := by
  let sync := listing.sync configuration ranges listed
  have found := Bindings.mem_rows_iff.mp member
  cases supported : bound.port.ownerClass.isSupported with
  | false =>
      rw [store_portDeleted_of_ignored tells supported] at member
      exact ⟨member, fun _ => Or.inl (Or.inl supported)⟩
  | true =>
      obtain ⟨leaves, subnet, vacated, told⟩ :=
        @vacates_portDeleted _ _ _ _ sync (listing.alone listed) settled tells supported
      refine ⟨Bindings.mem_rows_iff.mpr (vacated.kept _ _ row found), ?_⟩
      rintro ⟨named, leaf, known, switch, host⟩
      cases serves : leaf.serves bound.segments.physicalNetwork with
      | false => exact Or.inl (Or.inr ⟨leaf, known, switch, host, serves⟩)
      | true =>
          right
          have hosted : bound.port.hostId ≠ "" := fun blank => Configuration.hosts_named checked known (blank ▸ host)
          obtain ⟨rfl, rfl⟩ := told hosted _ [] (listing.subnets listed _ _)
          have among : leaf ∈ sync.leavesFor bound.port bound.segments :=
            List.mem_filter.mpr ⟨mem_leavesOf.mpr ⟨known, host⟩, serves⟩
          -- The row is there still, so the cloud named a port that needs the leaf.
          rcases vacated.gone leaf among with absent | ⟨state, needed⟩
          · rw [switch, named] at absent
            cases found.symm.trans absent
          · obtain ⟨other, needs, _⟩ := needed _ (listing.ports listed _ _ state)
            simp only [List.mem_filter, List.mem_map, Bool.and_eq_true, List.contains_iff_mem, beq_iff_eq] at needs
            obtain ⟨⟨holder, present, rfl⟩, also, on⟩ := needs
            exact ⟨holder, present, on.trans named, leaf, known, switch, also⟩

theorem Peopled.settled (empty : start.store.bindings.rows = [])
    (peopled : Peopled listing configuration ranges start listed gone site) : site.store.bindings.Settled := by
  induction peopled with
  | start =>
      intro row member
      rw [empty] at member
      cases member
  | appeared _ _ _ ih => exact (moves_after (listing.alone _) ih rfl).settled ih
  | dropped _ _ _ ih => exact (moves_after (listing.alone _) ih rfl).settled ih

def Bound.told (bound : Bound) : PortEvent := ⟨bound.port, some bound.segments, none, none⟩

theorem Bound.tells_told : Tells bound.told bound := ⟨rfl, rfl⟩

def comeAndGo (listing : Listing ω) (configuration : Configuration) (ranges : PoolRanges) (first second : Bound)
    (start : Site ω) : Site ω :=
  let sync := listing.sync configuration ranges
  let both := (sync [second, first]).after (.portUpdated second.told) ((sync [first]).after (.portUpdated first.told) start)
  (sync []).after (.portDeleted second.told) ((sync [second]).after (.portDeleted first.told) both)

theorem peopled_comeAndGo {first second : Bound} (one : first.port.status = .active) (two : second.port.status = .active) :
    Peopled listing configuration ranges start [] [second, first]
      (comeAndGo listing configuration ranges first second start) := by
  have alone : Peopled listing configuration ranges start [first] [] _ := .appeared .start Bound.tells_told one
  have both : Peopled listing configuration ranges start [second, first] [] _ := .appeared alone Bound.tells_told two
  have left : Peopled listing configuration ranges start [second] [first] _ :=
    .dropped both Bound.tells_told (.swap first second [])
  exact .dropped left Bound.tells_told (.refl _)

/-- Every row is needed by a listed port, at a host cabled to its switch, or else the last port gone that
needed it was passed over: nobody looks at a switch for a port with an owner of no concern, nor for one
bound through another physical network. -/
theorem rows_accounted_for (checked : configuration.check = .ok ranges) (empty : start.store.bindings.rows = [])
    (peopled : Peopled listing configuration ranges start listed gone site) :
    ∀ row ∈ site.store.bindings.rows,
      Accounted (.ofConfiguration configuration) listing.subnetOf listed gone row.switch row.subnet := by
  induction peopled with
  | start =>
      intro row member
      rw [empty] at member
      cases member
  | @appeared listed gone site bound event earlier tells active ih =>
      intro row member
      rcases mem_of_appeared (earlier.settled empty) tells active member with ⟨before, known, switch, subnet⟩ | occupies
      · rw [← switch, ← subnet]
        exact (ih before known).appeared
      · exact Or.inl ⟨bound, .head _, occupies⟩
  | @dropped listed rest gone site bound event earlier tells left ih =>
      -- The port dropped is the last one gone now; it matters for the rows that it needed only.
      intro row member
      obtain ⟨known, needed⟩ := mem_of_dropped checked (earlier.settled empty) tells member
      by_cases occupies : Occupies (.ofConfiguration configuration) listing.subnetOf row.switch row.subnet bound
      · rcases needed occupies with passed | other
        · exact Or.inr ⟨[], bound, gone, rfl, by simp, occupies, passed⟩
        · exact Or.inl other
      · exact (ih row known).dropped left occupies

def Listing.small (subnet : Subnet) : Listing Unit where
  outside listed :=
    { Outside.small subnet none with
      ask := fun query state =>
        match query with
        | .ports hosts name =>
            (.ok ((listed.map Bound.port).filter fun port => hosts.contains port.hostId && subnet.id == name), state)
        | .subnetsOf _ => (.ok [subnet], state)
        | query => (Outside.small subnet none).ask query state }
  subnetOf _ := subnet
  alone _ _ := rfl
  subnets _ _ _ := rfl
  ports _ _ _ _ := rfl

def Bound.small (id owner physnet : String) : Bound where
  port := ⟨id, "net", "tenant", owner, "host", .active⟩
  segments := ⟨⟨7, by decide, by decide⟩, ⟨5, by decide, by decide⟩, physnet⟩

theorem row_accounted_for_after_last_port :
    let first : Bound := .small "first" "compute:x" "blue"
    let second : Bound := .small "second" "network:floatingip" "blue"
    let listing : Listing Unit := .small ⟨"inner", "net", "10.1.0.0/24", none⟩
    ∃ row ∈ (comeAndGo listing .bordered .bordered first second ⟨.bordered, [], ()⟩).store.bindings.rows,
      Accounted (.ofConfiguration .bordered) listing.subnetOf [] [second, first] row.switch row.subnet := by
  intro first second listing
  have peopled : Peopled listing .bordered .bordered ⟨.bordered, [], ()⟩ [] [second, first] _ := peopled_comeAndGo rfl rfl
  have accounted := rows_accounted_for Configuration.check_bordered rfl peopled
  have left : ∃ row ∈ (comeAndGo listing .bordered .bordered first second ⟨.bordered, [], ()⟩).store.bindings.rows,
      row.switch = "10.0.0.1" := by decide +kernel
  obtain ⟨row, member, _⟩ := left
  exact ⟨row, member, accounted row member⟩

/-- A row outlives the ports listed, be the last one a floating address or bound through another network. -/
theorem row_outlives_ports :
    let first : Bound := .small "first" "compute:x" "blue"
    let floating : Bound := .small "second" "network:floatingip" "blue"
    let elsewhere : Bound := .small "second" "compute:x" "red"
    let listing : Listing Unit := .small ⟨"inner", "net", "10.1.0.0/24", none⟩
    (∃ site, Peopled listing .bordered .bordered ⟨.bordered, [], ()⟩ [] [floating, first] site ∧
      site.store.bindings.rows.map (fun row => (row.switch, row.subnet)) = [("10.0.0.1", "inner")]) ∧
    ∃ site, Peopled listing .bordered .bordered ⟨.bordered, [], ()⟩ [] [elsewhere, first] site ∧
      site.store.bindings.rows.map (fun row => (row.switch, row.subnet)) = [("10.0.0.1", "inner")] := by
  intro first floating elsewhere listing
  constructor
  · exact ⟨_, peopled_comeAndGo rfl rfl, by decide +kernel⟩
  · exact ⟨_, peopled_comeAndGo rfl rfl, by decide +kernel⟩

end Synchronizer
end OverlayFabric
