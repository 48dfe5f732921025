import Mathlib.Data.List.Nodup
import Mathlib.Data.List.Perm.Basic
import OverlayFabric.Store.Binding

namespace OverlayFabric
namespace BindingRow

theorem isFor_iff {switch subnet : String} {row : BindingRow} :
    row.isFor switch subnet = true ↔ row.switch = switch ∧ row.subnet = subnet := by
  simp [isFor]

theorem not_precedes_of_same {a b : BindingRow} (switch : a.switch = b.switch)
    (subnet : a.subnet = b.subnet) : ¬ a.precedes b := by
  rintro (less | ⟨_, less⟩)
  · exact String.lt_irrefl _ (switch ▸ less)
  · exact String.lt_irrefl _ (subnet ▸ less)

theorem insertInto_of_present {row : BindingRow} {rows : List BindingRow}
    (sorted : rows.Pairwise precedes) (present : ∃ r ∈ rows, r.isFor row.switch row.subnet = true) :
    insertInto row rows = rows := by
  induction rows with
  | nil => simp at present
  | cons head rest ih =>
      obtain ⟨r, member, same⟩ := present
      obtain ⟨switch, subnet⟩ := isFor_iff.mp same
      simp only [insertInto]
      split
      · rfl
      · next other =>
          have inner := List.pairwise_cons.mp sorted
          rcases List.mem_cons.mp member with rfl | member
          · exact absurd ⟨switch, subnet⟩ other
          · have later : ¬ row.precedes head := fun before =>
              not_precedes_of_same switch.symm subnet.symm (precedes_trans before (inner.1 r member))
            rw [if_neg later, ih inner.2 ⟨r, member, same⟩]

theorem mem_insertInto_of_absent {row r : BindingRow} {rows : List BindingRow}
    (absent : ∀ r ∈ rows, r.isFor row.switch row.subnet = false) :
    r ∈ insertInto row rows ↔ r = row ∨ r ∈ rows := by
  induction rows with
  | nil => simp [insertInto]
  | cons head rest ih =>
      have other : ¬ (head.switch = row.switch ∧ head.subnet = row.subnet) := by
        rw [← isFor_iff, absent head (.head _)]
        exact Bool.false_ne_true
      simp only [insertInto, if_neg other]
      split
      · exact List.mem_cons
      · rw [List.mem_cons, ih fun r member => absent r (.tail _ member), List.mem_cons]
        exact or_left_comm

end BindingRow

namespace Bindings

def row? (bindings : Bindings) (switch subnet : String) : Option BindingRow :=
  bindings.rows.find? (·.isFor switch subnet)

variable {bindings : Bindings} {switch subnet : String} {row : BindingRow}

theorem eq_of_same {a b : BindingRow} (aMember : a ∈ bindings.rows) (bMember : b ∈ bindings.rows)
    (switch : a.switch = b.switch) (subnet : a.subnet = b.subnet) : a = b := by
  have distinct : (bindings.rows.map fun row => (row.switch, row.subnet)).Nodup := by
    rw [List.Nodup, List.pairwise_map]
    refine bindings.sorted.imp fun before same => ?_
    exact BindingRow.not_precedes_of_same (Prod.ext_iff.mp same).1 (Prod.ext_iff.mp same).2 before
  exact List.inj_on_of_nodup_map distinct aMember bMember (Prod.ext switch subnet)

theorem row?_eq_some_iff :
    bindings.row? switch subnet = some row ↔
      row ∈ bindings.rows ∧ row.switch = switch ∧ row.subnet = subnet := by
  constructor
  · intro found
    exact ⟨List.mem_of_find?_eq_some found, BindingRow.isFor_iff.mp (List.find?_some found :)⟩
  · rintro ⟨member, named⟩
    have matching : ∃ r ∈ bindings.rows, r.isFor switch subnet = true :=
      ⟨row, member, BindingRow.isFor_iff.mpr named⟩
    obtain ⟨first, found⟩ := Option.isSome_iff_exists.mp (List.find?_isSome.mpr matching)
    have firstNamed := BindingRow.isFor_iff.mp (List.find?_some found :)
    rw [row?, found, eq_of_same (List.mem_of_find?_eq_some found) member
      (firstNamed.1.trans named.1.symm) (firstNamed.2.trans named.2.symm)]

theorem row?_eq_none_iff :
    bindings.row? switch subnet = none ↔ ∀ row ∈ bindings.rows, row.isFor switch subnet = false := by
  simp [row?]

theorem contains_eq_isSome : bindings.contains switch subnet = (bindings.row? switch subnet).isSome := by
  rw [Bool.eq_iff_iff, contains, List.any_eq_true, row?, List.find?_isSome]

theorem mem_rows_iff : row ∈ bindings.rows ↔ bindings.row? row.switch row.subnet = some row := by
  simp [row?_eq_some_iff]

theorem nodup_rows (bindings : Bindings) : bindings.rows.Nodup :=
  bindings.sorted.imp fun before same => BindingRow.not_precedes_of_same
    (congrArg BindingRow.switch same) (congrArg BindingRow.subnet same) before

theorem rows_eq_of_row? {a b : Bindings} (rows : ∀ switch subnet, a.row? switch subnet = b.row? switch subnet) :
    a.rows = b.rows := by
  have members : a.rows.Perm b.rows := by
    rw [List.perm_ext_iff_of_nodup a.nodup_rows b.nodup_rows]
    intro row
    rw [mem_rows_iff, mem_rows_iff, rows]
  refine members.eq_of_pairwise (fun x y _ _ before after => ?_) a.sorted b.sorted
  exact absurd (BindingRow.precedes_trans before after) (BindingRow.not_precedes_of_same rfl rfl)

theorem eq_of_row? {a b : Bindings} (rows : ∀ switch subnet, a.row? switch subnet = b.row? switch subnet)
    (next : a.next = b.next) : a = b := by
  have same : a.rows = b.rows := rows_eq_of_row? rows
  obtain ⟨aRows, aNext, aSorted⟩ := a
  obtain ⟨bRows, bNext, bSorted⟩ := b
  cases same
  cases next
  rfl

/-- The table after a number was used up for nothing. -/
def skip (bindings : Bindings) : Bindings := { bindings with next := bindings.next + 1 }

@[simp] theorem row?_skip : bindings.skip.row? switch subnet = bindings.row? switch subnet := rfl

@[simp] theorem row?_empty : empty.row? switch subnet = none := rfl

theorem add_of_present (present : bindings.contains row.switch row.subnet = true) :
    bindings.add row = bindings.skip := by
  refine eq_of_row? (fun switch subnet => ?_) rfl
  rw [row?_skip]
  unfold row? add
  simp only
  rw [BindingRow.insertInto_of_present bindings.sorted]
  exact List.any_eq_true.mp present

theorem mem_add_of_absent (absent : bindings.row? row.switch row.subnet = none) {r : BindingRow} :
    r ∈ (bindings.add row).rows ↔ r = { row with number := bindings.next } ∨ r ∈ bindings.rows :=
  BindingRow.mem_insertInto_of_absent (row?_eq_none_iff.mp absent)

theorem perm_add_of_absent (absent : bindings.row? row.switch row.subnet = none) :
    (bindings.add row).rows.Perm ({ row with number := bindings.next } :: bindings.rows) := by
  have new : { row with number := bindings.next } ∉ bindings.rows := fun member => by
    have named := row?_eq_none_iff.mp absent _ member
    simp [BindingRow.isFor] at named
  rw [List.perm_ext_iff_of_nodup (nodup_rows _) (List.nodup_cons.mpr ⟨new, bindings.nodup_rows⟩)]
  intro r
  rw [mem_add_of_absent absent, List.mem_cons]

theorem row?_add_of_absent (absent : bindings.row? row.switch row.subnet = none) (s n : String) :
    (bindings.add row).row? s n =
      if s = row.switch ∧ n = row.subnet then some { row with number := bindings.next }
      else bindings.row? s n := by
  ext found
  rw [row?_eq_some_iff, mem_add_of_absent absent]
  split
  · next here =>
      obtain ⟨rfl, rfl⟩ := here
      rw [or_and_right, ← row?_eq_some_iff, absent]
      simp +contextual [eq_comm]
  · next elsewhere =>
      rw [row?_eq_some_iff]
      constructor
      · rintro ⟨rfl | member, named⟩
        · exact absurd ⟨named.1.symm, named.2.symm⟩ elsewhere
        · exact ⟨member, named⟩
      · exact fun ⟨member, named⟩ => ⟨Or.inr member, named⟩

theorem isSome_row?_add : ((bindings.add row).row? row.switch row.subnet).isSome = true := by
  cases present : bindings.contains row.switch row.subnet with
  | true => rwa [add_of_present present, row?_skip, ← contains_eq_isSome]
  | false =>
      have absent : bindings.row? row.switch row.subnet = none := by
        rwa [contains_eq_isSome, Option.isSome_eq_false_iff, Option.isNone_iff_eq_none] at present
      rw [row?_add_of_absent absent, if_pos ⟨rfl, rfl⟩]
      rfl

theorem row?_update {f : BindingRow → BindingRow} {same_switch : ∀ row, (f row).switch = row.switch}
    {same_subnet : ∀ row, (f row).subnet = row.subnet} :
    (bindings.update f same_switch same_subnet).row? switch subnet =
      (bindings.row? switch subnet).map f := by
  unfold row? update
  simp only [List.find?_map]
  congr 2
  funext row
  simp [BindingRow.isFor, same_switch, same_subnet]

theorem map_row?_eq {s n : String} {f g : BindingRow → BindingRow}
    (only : ∀ row, f row = if row.isFor switch subnet then g row else row) :
    (bindings.row? s n).map f =
      if s = switch ∧ n = subnet then (bindings.row? switch subnet).map g else bindings.row? s n := by
  cases found : bindings.row? s n with
  | none =>
      split
      · next here =>
          obtain ⟨rfl, rfl⟩ := here
          rw [found]
          rfl
      · rfl
  | some row =>
      obtain ⟨_, rfl, rfl⟩ := row?_eq_some_iff.mp found
      rw [Option.map_some, only]
      split
      · next here =>
          obtain ⟨same, also⟩ := BindingRow.isFor_iff.mp here
          rw [if_pos ⟨same, also⟩, ← same, ← also, found, Option.map_some]
      · next elsewhere =>
          rw [if_neg fun here => elsewhere (BindingRow.isFor_iff.mpr here)]

theorem row?_marked (s n : String) :
    (bindings.marked switch subnet).row? s n =
      if s = switch ∧ n = subnet then
        (bindings.row? switch subnet).map fun row => { row with configured := true }
      else bindings.row? s n := by
  rw [marked, row?_update]
  exact map_row?_eq fun row => by simp only [markWith]

theorem row?_route {router : String} {l3 : Int} (s n : String) :
    (bindings.route switch subnet router l3).row? s n =
      if s = switch ∧ n = subnet then
        (bindings.row? switch subnet).map fun row => { row with router, l3 }
      else bindings.row? s n := by
  rw [route, row?_update]
  exact map_row?_eq fun row => by simp only [routeWith]

theorem mem_route {router : String} {l3 : Int} (member : row ∈ (bindings.route switch subnet router l3).rows) :
    row ∈ bindings.rows ∨ row.router = router ∧ row.l3 = l3 := by
  obtain ⟨before, known, rfl⟩ := List.mem_map.mp member
  by_cases here : before.isFor switch subnet = true
  · right
    rw [routeWith, if_pos here]
    exact ⟨rfl, rfl⟩
  · left
    rwa [routeWith, if_neg here]

theorem row?_without (s n : String) :
    (bindings.without switch subnet).row? s n =
      if s = switch ∧ n = subnet then none else bindings.row? s n := by
  ext row
  have members : row ∈ (bindings.without switch subnet).rows ↔
      row ∈ bindings.rows ∧ row.isFor switch subnet = false := by
    simp [without]
  rw [row?_eq_some_iff, members]
  split
  · next here =>
      obtain ⟨rfl, rfl⟩ := here
      simp only [reduceCtorEq, iff_false]
      rintro ⟨⟨_, other⟩, named⟩
      rw [BindingRow.isFor_iff.mpr named] at other
      cases other
  · next elsewhere =>
      rw [row?_eq_some_iff]
      refine ⟨fun ⟨⟨member, _⟩, named⟩ => ⟨member, named⟩, fun ⟨member, named⟩ => ⟨⟨member, ?_⟩, named⟩⟩
      rw [Bool.eq_false_iff]
      intro here
      obtain ⟨rfl, rfl⟩ := BindingRow.isFor_iff.mp here
      exact elsewhere ⟨named.1.symm, named.2.symm⟩

theorem without_of_absent (absent : bindings.row? switch subnet = none) : bindings.without switch subnet = bindings := by
  refine eq_of_row? (fun s n => ?_) rfl
  rw [row?_without]
  split
  · next here =>
      obtain ⟨rfl, rfl⟩ := here
      exact absent.symm
  · rfl

theorem add_without (absent : bindings.row? row.switch row.subnet = none) :
    (bindings.add row).without row.switch row.subnet = bindings.skip := by
  refine eq_of_row? (fun s n => ?_) rfl
  rw [row?_without, row?_add_of_absent absent, row?_skip]
  split
  · next here =>
      obtain ⟨rfl, rfl⟩ := here
      exact absent.symm
  · rfl

theorem add_marked (absent : bindings.row? row.switch row.subnet = none) :
    (bindings.add row).marked row.switch row.subnet = bindings.add { row with configured := true } := by
  refine eq_of_row? (fun s n => ?_) rfl
  have later := @row?_add_of_absent bindings { row with configured := true } absent s n
  rw [row?_marked, row?_add_of_absent absent, row?_add_of_absent absent, later]
  split
  · rw [if_pos ⟨rfl, rfl⟩]
    rfl
  · rfl

theorem route_without {router : String} {l3 : Int} :
    (bindings.route switch subnet router l3).without switch subnet = bindings.without switch subnet := by
  refine eq_of_row? (fun s n => ?_) rfl
  rw [row?_without, row?_without, row?_route]
  split
  · rfl
  · rfl

def SameBut (switch subnet : String) (bindings after : Bindings) : Prop :=
  ∀ s n, ¬(s = switch ∧ n = subnet) → after.row? s n = bindings.row? s n

theorem sameBut_refl : SameBut switch subnet bindings bindings := fun _ _ _ => rfl

theorem SameBut.trans {mid after : Bindings} (first : SameBut switch subnet bindings mid)
    (second : SameBut switch subnet mid after) : SameBut switch subnet bindings after := by
  intro s n other
  rw [second s n other, first s n other]

theorem sameBut_add (absent : bindings.row? row.switch row.subnet = none) :
    SameBut row.switch row.subnet bindings (bindings.add row) := by
  intro s n other
  rw [row?_add_of_absent absent, if_neg other]

theorem sameBut_route {router : String} {l3 : Int} :
    SameBut switch subnet bindings (bindings.route switch subnet router l3) := by
  intro s n other
  rw [row?_route, if_neg other]

theorem sameBut_without : SameBut switch subnet bindings (bindings.without switch subnet) := by
  intro s n other
  rw [row?_without, if_neg other]

end Bindings
end OverlayFabric
