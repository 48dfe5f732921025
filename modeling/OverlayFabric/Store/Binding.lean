import OverlayFabric.Number.Radix
import OverlayFabric.Segment
import OverlayFabric.Store.Lock
import OverlayFabric.Vlan

namespace OverlayFabric

/-- A row as stored; the empty router and the layer-3 segment zero stand for none. -/
structure BindingRow where
  number : Nat
  switch : String
  subnet : String
  vlan : Int
  l2 : Int
  configured : Bool
  router : String
  l3 : Int
  deriving DecidableEq, Repr

structure Binding where
  number : Nat
  switch : String
  subnet : String
  vlan : VlanId
  l2 : SegmentId
  configured : Bool
  router : Option String
  l3 : Option SegmentId
  deriving DecidableEq, Repr

def Binding.isAttachedTo (binding : Binding) (router : String) : Bool :=
  binding.router == some router

namespace BindingRow

def corrupt (row : BindingRow) (field : String) (value : Int) : StoreError :=
  .corrupt "port_bindings" s!"{field} {value} in binding {row.number}"

def natOf? (value : Int) : Option Nat := if 0 ≤ value then some value.toNat else none

def decode (row : BindingRow) : Except StoreError Binding := do
  let some vlan := (natOf? row.vlan).bind VlanId.ofNat?
    | throw (row.corrupt "vlan_id" row.vlan)
  let some l2 := (natOf? row.l2).bind SegmentId.ofNat?
    | throw (row.corrupt "l2_segment_id" row.l2)
  let l3 ←
    if row.l3 = 0 then pure none
    else match (natOf? row.l3).bind SegmentId.ofNat? with
      | some l3 => pure (some l3)
      | none => throw (row.corrupt "l3_segment_id" row.l3)
  return {
    number := row.number, switch := row.switch, subnet := row.subnet, vlan, l2,
    configured := row.configured, router := if row.router = "" then none else some row.router, l3 }

def isFor (switch subnet : String) (row : BindingRow) : Bool :=
  row.switch == switch && row.subnet == subnet

def precedes (a b : BindingRow) : Prop :=
  a.switch < b.switch ∨ (a.switch = b.switch ∧ a.subnet < b.subnet)

instance (a b : BindingRow) : Decidable (a.precedes b) :=
  inferInstanceAs (Decidable (_ ∨ _))

theorem precedes_trans {a b c : BindingRow} (ab : a.precedes b) (bc : b.precedes c) :
    a.precedes c := by
  rcases ab with ab | ⟨ab, ab'⟩
  · rcases bc with bc | ⟨bc, _⟩
    · exact Or.inl (String.lt_trans ab bc)
    · exact Or.inl (bc ▸ ab)
  · rcases bc with bc | ⟨bc, bc'⟩
    · exact Or.inl (ab ▸ bc)
    · exact Or.inr ⟨ab.trans bc, String.lt_trans ab' bc'⟩

theorem precedes_of_not {a b : BindingRow} (later : ¬ a.precedes b)
    (other : ¬ (b.switch = a.switch ∧ b.subnet = a.subnet)) : b.precedes a := by
  rcases Std.lt_trichotomy a.switch b.switch with h | h | h
  · exact absurd (Or.inl h) later
  · rcases Std.lt_trichotomy a.subnet b.subnet with h' | h' | h'
    · exact absurd (Or.inr ⟨h, h'⟩) later
    · exact absurd ⟨h.symm, h'.symm⟩ other
    · exact Or.inr ⟨h.symm, h'⟩
  · exact Or.inl h

def insertInto (row : BindingRow) : List BindingRow → List BindingRow
  | [] => [row]
  | head :: rest =>
      if head.switch = row.switch ∧ head.subnet = row.subnet then head :: rest
      else if row.precedes head then row :: head :: rest
      else head :: insertInto row rest

theorem mem_insertInto {row r : BindingRow} {rows : List BindingRow} (h : r ∈ insertInto row rows) :
    r = row ∨ r ∈ rows := by
  induction rows with
  | nil => simpa [insertInto] using h
  | cons head rest ih =>
      simp only [insertInto] at h
      split at h
      · exact Or.inr h
      · split at h
        · exact List.mem_cons.mp h
        · rcases List.mem_cons.mp h with h | h
          · exact Or.inr (h ▸ .head _)
          · exact (ih h).imp_right (.tail _)

theorem sorted_insertInto (row : BindingRow) {rows : List BindingRow}
    (sorted : rows.Pairwise precedes) : (insertInto row rows).Pairwise precedes := by
  induction rows with
  | nil => simp [insertInto]
  | cons head rest ih =>
      have inner := List.pairwise_cons.mp sorted
      simp only [insertInto]
      split
      · exact sorted
      · next other =>
          split
          · next before =>
              refine List.pairwise_cons.mpr ⟨fun r member => ?_, sorted⟩
              rcases List.mem_cons.mp member with rfl | member
              · exact before
              · exact precedes_trans before (inner.1 r member)
          · next later =>
              refine List.pairwise_cons.mpr ⟨fun r member => ?_, ih inner.2⟩
              rcases mem_insertInto member with rfl | member
              · exact precedes_of_not later other
              · exact inner.1 r member

end BindingRow

structure Bindings where
  rows : List BindingRow
  next : Nat
  sorted : rows.Pairwise BindingRow.precedes := by simp
  deriving DecidableEq, Repr

namespace Bindings

def empty : Bindings := { rows := [], next := 1 }

instance : Inhabited Bindings := ⟨empty⟩

def contains (bindings : Bindings) (switch subnet : String) : Bool :=
  bindings.rows.any (·.isFor switch subnet)

/-- A number is used up also when there is a row already. -/
def add (bindings : Bindings) (row : BindingRow) : Bindings :=
  ⟨BindingRow.insertInto { row with number := bindings.next } bindings.rows, bindings.next + 1,
    BindingRow.sorted_insertInto _ bindings.sorted⟩

def place (bindings : Bindings) (row : BindingRow) : Bindings :=
  ⟨BindingRow.insertInto row bindings.rows, bindings.next,
    BindingRow.sorted_insertInto row bindings.sorted⟩

def ofRows (rows : List BindingRow) (next : Nat) : Bindings :=
  rows.foldl place { rows := [], next }

def update (bindings : Bindings) (f : BindingRow → BindingRow)
    (same_switch : ∀ row, (f row).switch = row.switch)
    (same_subnet : ∀ row, (f row).subnet = row.subnet) : Bindings :=
  ⟨bindings.rows.map f, bindings.next, by
    rw [List.pairwise_map]
    refine bindings.sorted.imp fun {a b} h => ?_
    simpa [BindingRow.precedes, same_switch, same_subnet] using h⟩

def upsert (bindings : Bindings) (lock : Lock) (switch subnet : String) (vlan : VlanId)
    (l2 : SegmentId) : Except StoreError (Bool × Bindings) := do
  lock.claim "upsert binding"
  return (!bindings.contains switch subnet, bindings.add {
    number := 0, switch, subnet, vlan := vlan.val, l2 := l2.val, configured := false, router := "",
    l3 := 0 })

def markWith (switch subnet : String) (row : BindingRow) : BindingRow :=
  if row.isFor switch subnet then { row with configured := true } else row

def marked (bindings : Bindings) (switch subnet : String) : Bindings :=
  bindings.update (markWith switch subnet)
    (fun row => by unfold markWith; split <;> rfl) (fun row => by unfold markWith; split <;> rfl)

/-- True only for the call that changed the mark. -/
def mark (bindings : Bindings) (lock : Lock) (switch subnet : String) :
    Except StoreError (Bool × Bindings) := do
  lock.claim "mark l2 configured"
  return (bindings.rows.any (fun row => row.isFor switch subnet && !row.configured),
    bindings.marked switch subnet)

def routeWith (switch subnet router : String) (l3 : Int) (row : BindingRow) : BindingRow :=
  if row.isFor switch subnet then { row with router, l3 } else row

def route (bindings : Bindings) (switch subnet router : String) (l3 : Int) : Bindings :=
  bindings.update (routeWith switch subnet router l3)
    (fun row => by unfold routeWith; split <;> rfl) (fun row => by unfold routeWith; split <;> rfl)

def attach (bindings : Bindings) (lock : Lock) (switch subnet router : String) (l3 : SegmentId) :
    Except StoreError (Bool × Bindings) := do
  lock.claim "attach router"
  return (bindings.contains switch subnet, bindings.route switch subnet router l3.val)

def detach (bindings : Bindings) (lock : Lock) (switch subnet : String) :
    Except StoreError (Bool × Bindings) := do
  lock.claim "detach router"
  return (bindings.contains switch subnet, bindings.route switch subnet "" 0)

def without (bindings : Bindings) (switch subnet : String) : Bindings :=
  ⟨bindings.rows.filter (!·.isFor switch subnet), bindings.next, bindings.sorted.filter _⟩

def remove (bindings : Bindings) (lock : Lock) (switch subnet : String) :
    Except StoreError (Bool × Bindings) := do
  lock.claim "remove binding"
  return (bindings.contains switch subnet, bindings.without switch subnet)

def get (bindings : Bindings) (switch subnet : String) : Except StoreError (Option Binding) :=
  match bindings.rows.find? (·.isFor switch subnet) with
  | some row => row.decode.map some
  | none => .ok none

def onSubnet (bindings : Bindings) (subnet : String) : Except StoreError (List Binding) :=
  (bindings.rows.filter (·.subnet == subnet)).mapM BindingRow.decode

def ofRouter (bindings : Bindings) (switch router : String) : Except StoreError (List Binding) :=
  (bindings.rows.filter fun row => row.switch == switch && row.router == router).mapM
    BindingRow.decode

def list (bindings : Bindings) : Except StoreError (List Binding) :=
  bindings.rows.mapM BindingRow.decode

end Bindings
end OverlayFabric
