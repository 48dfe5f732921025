import OverlayFabric.Proofs.Binding.Settled

namespace OverlayFabric.Bindings

theorem countP_of_differ {rows : List BindingRow} {row : BindingRow} (nodup : rows.Nodup) (member : row ∈ rows)
    {p q : BindingRow → Bool} (same : ∀ other ∈ rows, other ≠ row → q other = p other) :
    rows.countP q + (if p row then 1 else 0) = rows.countP p + if q row then 1 else 0 := by
  have perm := List.perm_cons_erase member
  have rest : (rows.erase row).countP q = (rows.erase row).countP p := by
    refine List.countP_congr fun other known => ?_
    have differ : other ≠ row := ((nodup.mem_erase_iff).mp known).1
    rw [same other (List.mem_of_mem_erase known) differ]
  rw [perm.countP_eq q, perm.countP_eq p, List.countP_cons, List.countP_cons, rest]
  omega

def attachedTo (switch router : String) (row : BindingRow) : Bool := row.switch == switch && row.router == router

def routedOn (bindings : Bindings) (switch router : String) : Nat := bindings.rows.countP (attachedTo switch router)

variable {bindings : Bindings} {switch subnet router s r : String} {row : BindingRow}

theorem attachedTo_iff : attachedTo switch router row = true ↔ row.switch = switch ∧ row.router = router := by
  simp [attachedTo]

theorem routedOn_add (absent : bindings.row? row.switch row.subnet = none) (other : row.router ≠ r) :
    (bindings.add row).routedOn s r = bindings.routedOn s r := by
  unfold routedOn
  rw [(perm_add_of_absent absent).countP_eq, List.countP_cons_of_neg]
  simp [attachedTo, other]

theorem routedOn_without (present : bindings.row? switch subnet = some row) (other : row.router ≠ r) :
    (bindings.without switch subnet).routedOn s r = bindings.routedOn s r := by
  unfold routedOn without
  rw [List.countP_filter]
  refine List.countP_congr fun found member => ?_
  by_cases here : found.isFor switch subnet = true
  · have same : found = row := by
      have given := row?_eq_some_iff.mpr ⟨member, BindingRow.isFor_iff.mp here⟩
      exact Option.some.inj (given.symm.trans present)
    simp [same, attachedTo, other]
  · simp [here]

theorem routedOn_route {l3 : Int} (present : bindings.row? switch subnet = some row) :
    (bindings.route switch subnet router l3).routedOn s r +
        (if switch = s ∧ row.router = r then 1 else 0) =
      bindings.routedOn s r + if switch = s ∧ router = r then 1 else 0 := by
  obtain ⟨member, rfl, rfl⟩ := row?_eq_some_iff.mp present
  have counted : (bindings.route row.switch row.subnet router l3).routedOn s r =
      bindings.rows.countP fun x => attachedTo s r (routeWith row.switch row.subnet router l3 x) := by
    unfold routedOn route update
    rw [List.countP_map]
    rfl
  have changed := countP_of_differ (p := attachedTo s r)
    (q := fun x => attachedTo s r (routeWith row.switch row.subnet router l3 x)) bindings.nodup_rows member
    fun other known differ => by
      have elsewhere : other.isFor row.switch row.subnet = false := by
        by_contra here
        obtain ⟨switch, subnet⟩ := BindingRow.isFor_iff.mp (Bool.not_eq_false _ ▸ here)
        exact differ (eq_of_same known member switch subnet)
      simp [routeWith, elsewhere]
  have self : routeWith row.switch row.subnet router l3 row = { row with router, l3 } := by
    simp [routeWith, BindingRow.isFor]
  simp only [self, attachedTo_iff] at changed
  rw [counted]
  exact changed

theorem routedOn_pos (present : bindings.row? switch subnet = some row) (routed : row.router = router) :
    0 < bindings.routedOn switch router := by
  obtain ⟨member, here, _⟩ := row?_eq_some_iff.mp present
  exact List.countP_pos_iff.mpr ⟨row, member, attachedTo_iff.mpr ⟨here, routed⟩⟩

theorem routesElsewhere_eq (present : bindings.row? switch subnet = some row) :
    bindings.routesElsewhere switch router subnet =
      decide ((if row.router = router then 1 else 0) < bindings.routedOn switch router) := by
  obtain ⟨member, rfl, rfl⟩ := row?_eq_some_iff.mp present
  have counted := countP_of_differ (p := attachedTo row.switch router)
    (q := fun x => attachedTo row.switch router x && x.subnet != row.subnet) bindings.nodup_rows member
    fun other known differ => by
      cases here : attachedTo row.switch router other with
      | false => rfl
      | true =>
          have named : other.subnet ≠ row.subnet := fun same =>
            differ (eq_of_same known member (attachedTo_iff.mp here).1 same)
          simp [named]
  have self : (attachedTo row.switch router row = true) ↔ row.router = router := by simp [attachedTo]
  simp only [self, bne_self_eq_false, Bool.and_false, Bool.false_eq_true, if_false, Nat.add_zero] at counted
  have found : bindings.routesElsewhere row.switch router row.subnet = true ↔
      0 < bindings.rows.countP fun x => attachedTo row.switch router x && x.subnet != row.subnet := by
    rw [List.countP_pos_iff, routesElsewhere, List.any_eq_true]
    rfl
  rw [Bool.eq_iff_iff, found, decide_eq_true_iff]
  unfold routedOn
  omega

end OverlayFabric.Bindings
