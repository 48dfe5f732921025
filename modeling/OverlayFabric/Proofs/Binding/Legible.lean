import OverlayFabric.Proofs.Binding.Settled

namespace OverlayFabric
namespace Binding

variable {binding other : Binding} {router : String}

theorem eq_of_row (named : binding.router ≠ some "") (otherNamed : other.router ≠ some "")
    (same : binding.row = other.row) : binding = other := by
  have read := decode_row named
  rw [same, decode_row otherNamed] at read
  exact (Except.ok.inj read).symm

theorem withRouter_named {l3 : Option SegmentId} : (binding.withRouter router l3).router ≠ some "" := by
  unfold withRouter
  split <;> simp_all

end Binding

namespace Bindings

def Legible (bindings : Bindings) : Prop :=
  ∀ row ∈ bindings.rows, ∃ binding : Binding, binding.router ≠ some "" ∧ binding.row = row

variable {bindings : Bindings} {switch subnet router : String} {lock : Lock}

theorem legible_empty : empty.Legible := by
  intro row member
  cases member

theorem Settled.legible (settled : bindings.Settled) : bindings.Legible := by
  intro row member
  obtain ⟨binding, good, same⟩ := settled row member
  exact ⟨binding, good.named, same⟩

theorem Legible.read (legible : bindings.Legible) (wanted : BindingRow → Bool) :
    ∃ found : List Binding, (bindings.rows.filter wanted).mapM BindingRow.decode = .ok found ∧
      (found.Pairwise fun a b => a.row.precedes b.row) ∧
      ∀ binding, binding ∈ found ↔
        binding.router ≠ some "" ∧ binding.row ∈ bindings.rows ∧ wanted binding.row = true := by
  obtain ⟨found, decoded, rows, named⟩ := @mapM_decode (fun binding => binding.router ≠ some "")
    (fun _ named => named) (bindings.rows.filter wanted)
    fun row member => legible row (List.mem_of_mem_filter member)
  refine ⟨found, decoded, List.pairwise_map.mp (rows ▸ bindings.sorted.filter _), fun binding => ?_⟩
  rw [← List.mem_filter, ← rows, List.mem_map]
  constructor
  · exact fun member => ⟨named binding member, binding, member, rfl⟩
  · rintro ⟨good, other, member, same⟩
    exact Binding.eq_of_row good (named other member) same.symm ▸ member

theorem Legible.get (legible : bindings.Legible) :
    (bindings.row? switch subnet = none ∧ bindings.get switch subnet = .ok none) ∨
      ∃ binding : Binding, bindings.row? switch subnet = some binding.row ∧ binding.router ≠ some "" ∧
        bindings.get switch subnet = .ok (some binding) := by
  cases found : bindings.row? switch subnet with
  | none => exact Or.inl ⟨rfl, get_of_absent found⟩
  | some row =>
      obtain ⟨binding, named, rfl⟩ := legible row (row?_eq_some_iff.mp found).1
      exact Or.inr ⟨binding, rfl, named, get_of_row named found⟩

theorem Legible.add (legible : bindings.Legible) {row : BindingRow}
    (written : ∃ binding : Binding, binding.router ≠ some "" ∧ binding.row = { row with number := bindings.next }) :
    (bindings.add row).Legible := by
  intro r member
  rcases BindingRow.mem_insertInto member with rfl | member
  · exact written
  · exact legible r member

theorem Legible.marked (legible : bindings.Legible) : (bindings.marked switch subnet).Legible := by
  intro row member
  obtain ⟨before, known, rfl⟩ := List.mem_map.mp member
  obtain ⟨binding, named, rfl⟩ := legible before known
  unfold markWith
  split
  · exact ⟨{ binding with configured := true }, named, rfl⟩
  · exact ⟨binding, named, rfl⟩

theorem Legible.route (legible : bindings.Legible) (l3 : Option SegmentId) :
    (bindings.route switch subnet router ((l3.map (·.val)).getD 0)).Legible := by
  intro row member
  obtain ⟨before, known, rfl⟩ := List.mem_map.mp member
  obtain ⟨binding, named, rfl⟩ := legible before known
  unfold routeWith
  split
  · exact ⟨_, Binding.withRouter_named, Binding.row_withRouter l3⟩
  · exact ⟨binding, named, rfl⟩

theorem Legible.without (legible : bindings.Legible) : (bindings.without switch subnet).Legible :=
  fun row member => legible row (List.mem_of_mem_filter member)

end Bindings
end OverlayFabric
