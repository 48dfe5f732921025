import OverlayFabric.Proofs.Binding.Table

namespace OverlayFabric

namespace Binding

def row (binding : Binding) : BindingRow where
  number := binding.number
  switch := binding.switch
  subnet := binding.subnet
  vlan := binding.vlan.val
  l2 := binding.l2.val
  configured := binding.configured
  router := binding.router.getD ""
  l3 := (binding.l3.map (·.val)).getD 0

structure Settled (binding : Binding) : Prop where
  named : binding.router ≠ some ""
  configured : binding.configured = true
  routed : binding.router.isSome → binding.l3.isSome

/-- The binding with a router, or with none for the empty router. -/
def withRouter (binding : Binding) (router : String) (l3 : Option SegmentId) : Binding :=
  { binding with router := if router = "" then none else some router, l3 }

variable {binding : Binding} {router : String}

theorem decode_row (named : binding.router ≠ some "") : binding.row.decode = .ok binding := by
  obtain ⟨number, switch, subnet, vlan, l2, configured, router, l3⟩ := binding
  have segment (l3 : SegmentId) : (l3.val : Int) ≠ 0 := by
    have := l3.pos
    omega
  have none_of (name : String) (h : some name ≠ some "") : ¬ name = "" := fun same => h (same ▸ rfl)
  cases router <;> cases l3 <;> simp_all [BindingRow.decode, row, BindingRow.natOf?] <;> rfl

theorem router_row : binding.row.router = binding.router.getD "" := rfl

theorem vlan_of_row {vlan : VlanId} (same : binding.row.vlan = vlan.val) : binding.vlan = vlan :=
  VlanId.ext (Int.ofNat.inj same)

theorem l2_of_row {vni : SegmentId} (same : binding.row.l2 = vni.val) : binding.l2 = vni :=
  SegmentId.eq_of_val (Int.ofNat.inj same)

theorem isAttachedTo_iff : binding.isAttachedTo router = true ↔ binding.router = some router := by
  simp [isAttachedTo]

theorem router_row_eq_iff (named : router ≠ "") :
    binding.row.router = router ↔ binding.router = some router := by
  rw [router_row]
  cases given : binding.router with
  | none => simp [named.symm]
  | some name => simp

theorem Settled.ne_of_routed (settled : binding.Settled) (routed : binding.router = some router) : router ≠ "" :=
  fun same => settled.named (same ▸ routed)

theorem row_of_routed (routed : binding.router = some router) : binding.row.router = router := by
  rw [router_row, routed]
  rfl

theorem Settled.withRouter (settled : binding.Settled) (l3 : SegmentId) :
    (binding.withRouter router (some l3)).Settled := by
  refine ⟨?_, settled.configured, fun _ => rfl⟩
  unfold Binding.withRouter
  split <;> simp_all

theorem Settled.withoutRouter (settled : binding.Settled) : (binding.withRouter "" none).Settled :=
  ⟨by simp [Binding.withRouter], settled.configured, by simp [Binding.withRouter]⟩

theorem row_withRouter (l3 : Option SegmentId) :
    (binding.withRouter router l3).row =
      { binding.row with router, l3 := (l3.map (·.val)).getD 0 } := by
  unfold Binding.withRouter row
  split <;> simp_all

end Binding

namespace Bindings

def Settled (bindings : Bindings) : Prop :=
  ∀ row ∈ bindings.rows, ∃ binding : Binding, binding.Settled ∧ binding.row = row

def routesElsewhere (bindings : Bindings) (switch router subnet : String) : Bool :=
  bindings.rows.any fun row => row.switch == switch && row.router == router && row.subnet != subnet

variable {bindings : Bindings} {switch subnet router : String}

theorem settled_empty : empty.Settled := by
  intro row member
  cases member

theorem mapM_decode {good : Binding → Prop} (named : ∀ binding, good binding → binding.router ≠ some "")
    {rows : List BindingRow} (known : ∀ row ∈ rows, ∃ binding : Binding, good binding ∧ binding.row = row) :
    ∃ bindings : List Binding, rows.mapM BindingRow.decode = .ok bindings ∧
      bindings.map Binding.row = rows ∧ ∀ binding ∈ bindings, good binding := by
  induction rows with
  | nil => exact ⟨[], rfl, rfl, by simp⟩
  | cons row rest ih =>
      obtain ⟨binding, fine, rfl⟩ := known row (.head _)
      obtain ⟨others, decoded, rows, allFine⟩ := ih fun row member => known row (.tail _ member)
      refine ⟨binding :: others, ?_, by simp [rows], ?_⟩
      · rw [List.mapM_cons, Binding.decode_row (named binding fine), decoded]
        rfl
      · intro b member
        rcases List.mem_cons.mp member with rfl | member
        · exact fine
        · exact allFine b member

theorem routesElsewhere_iff :
    bindings.routesElsewhere switch router subnet = true ↔
      ∃ other row, other ≠ subnet ∧ bindings.row? switch other = some row ∧ row.router = router := by
  simp only [routesElsewhere, List.any_eq_true, Bool.and_eq_true, beq_iff_eq, bne_iff_ne, row?_eq_some_iff]
  constructor
  · rintro ⟨row, member, ⟨here, routed⟩, other⟩
    exact ⟨row.subnet, row, other, ⟨member, here, rfl⟩, routed⟩
  · rintro ⟨_, row, other, ⟨member, here, rfl⟩, routed⟩
    exact ⟨row, member, ⟨here, routed⟩, other⟩

theorem routesElsewhere_congr {after : Bindings}
    (same : ∀ other, other ≠ subnet → after.row? switch other = bindings.row? switch other) :
    after.routesElsewhere switch router subnet = bindings.routesElsewhere switch router subnet := by
  rw [Bool.eq_iff_iff, routesElsewhere_iff, routesElsewhere_iff]
  constructor
  · rintro ⟨other, row, differ, found, routed⟩
    exact ⟨other, row, differ, (same other differ).symm.trans found, routed⟩
  · rintro ⟨other, row, differ, found, routed⟩
    exact ⟨other, row, differ, (same other differ).trans found, routed⟩

theorem get_of_row {binding : Binding} (named : binding.router ≠ some "")
    (found : bindings.row? switch subnet = some binding.row) :
    bindings.get switch subnet = .ok (some binding) := by
  unfold Bindings.get
  rw [show bindings.rows.find? _ = _ from found]
  simp only [Binding.decode_row named]
  rfl

theorem get_of_absent (absent : bindings.row? switch subnet = none) : bindings.get switch subnet = .ok none := by
  rw [Bindings.get, show bindings.rows.find? _ = _ from absent]

theorem Settled.get (settled : bindings.Settled) :
    (bindings.row? switch subnet = none ∧ bindings.get switch subnet = .ok none) ∨
      ∃ binding : Binding, bindings.row? switch subnet = some binding.row ∧ binding.Settled ∧
        bindings.get switch subnet = .ok (some binding) := by
  cases found : bindings.row? switch subnet with
  | none => exact Or.inl ⟨rfl, get_of_absent found⟩
  | some row =>
      obtain ⟨binding, good, rfl⟩ := settled row (row?_eq_some_iff.mp found).1
      exact Or.inr ⟨binding, rfl, good, get_of_row good.named found⟩

theorem Settled.onSubnet (settled : bindings.Settled) :
    ∃ found : List Binding, bindings.onSubnet subnet = .ok found ∧
      found.map Binding.row = bindings.rows.filter (·.subnet == subnet) ∧
      ∀ binding ∈ found, binding.Settled :=
  mapM_decode (fun _ good => good.named) fun row member => settled row (List.mem_of_mem_filter member)

theorem Settled.mem_onSubnet {found : List Binding} (settled : bindings.Settled)
    (read : bindings.onSubnet subnet = .ok found) {row : BindingRow} :
    (∃ binding ∈ found, binding.row = row) ↔ row ∈ bindings.rows ∧ row.subnet = subnet := by
  obtain ⟨_, same, rows, _⟩ := @Settled.onSubnet _ subnet settled
  cases read.symm.trans same
  rw [← List.mem_map, rows, List.mem_filter, beq_iff_eq]

theorem Settled.ascending_onSubnet {found : List Binding} (settled : bindings.Settled)
    (read : bindings.onSubnet subnet = .ok found) : found.Pairwise fun a b => a.switch < b.switch := by
  obtain ⟨_, same, rows, _⟩ := @Settled.onSubnet _ subnet settled
  cases read.symm.trans same
  have here (binding : Binding) (member : binding ∈ found) : binding.row.subnet = subnet :=
    ((settled.mem_onSubnet read).mp ⟨binding, member, rfl⟩).2
  have sorted := List.pairwise_map.mp (rows ▸ bindings.sorted.filter _)
  refine sorted.imp_of_mem fun {a b} first second before => before.resolve_right fun same => ?_
  rw [here a first, here b second] at same
  exact String.lt_irrefl subnet same.2

theorem Settled.ofRouter (settled : bindings.Settled) :
    ∃ found : List Binding, bindings.ofRouter switch router = .ok found ∧
      found.any (·.subnet != subnet) = bindings.routesElsewhere switch router subnet := by
  obtain ⟨found, read, rows, _⟩ :=
    @mapM_decode Binding.Settled (fun _ good => good.named)
      (bindings.rows.filter fun row => row.switch == switch && row.router == router)
      fun row member => settled row (List.mem_of_mem_filter member)
  refine ⟨found, read, ?_⟩
  have : found.any (·.subnet != subnet) = (found.map Binding.row).any (·.subnet != subnet) := by
    rw [List.any_map]
    rfl
  rw [this, rows, List.any_filter, routesElsewhere]

theorem Settled.add (settled : bindings.Settled) {row : BindingRow}
    (good : ∃ binding : Binding, binding.Settled ∧ binding.row = { row with number := bindings.next }) :
    (bindings.add row).Settled := by
  intro r member
  rcases BindingRow.mem_insertInto member with rfl | member
  · exact good
  · exact settled r member

theorem Settled.route (settled : bindings.Settled) (l3 : SegmentId) :
    (bindings.route switch subnet router l3.val).Settled := by
  intro row member
  obtain ⟨before, known, rfl⟩ := List.mem_map.mp member
  obtain ⟨binding, good, rfl⟩ := settled before known
  unfold routeWith
  split
  · exact ⟨_, good.withRouter l3, Binding.row_withRouter (some l3)⟩
  · exact ⟨binding, good, rfl⟩

theorem Settled.unroute (settled : bindings.Settled) : (bindings.route switch subnet "" 0).Settled := by
  intro row member
  obtain ⟨before, known, rfl⟩ := List.mem_map.mp member
  obtain ⟨binding, good, rfl⟩ := settled before known
  unfold routeWith
  split
  · exact ⟨_, good.withoutRouter, Binding.row_withRouter none⟩
  · exact ⟨binding, good, rfl⟩

theorem Settled.without (settled : bindings.Settled) : (bindings.without switch subnet).Settled :=
  fun row member => settled row (List.mem_of_mem_filter member)

end Bindings
end OverlayFabric
