import Mathlib.Logic.Function.Basic
import OverlayFabric.Proofs.Binding.Legible

namespace OverlayFabric

structure Carriage where
  vlan : VlanId
  l2 : SegmentId
  configured : Bool
  attachment : Option (String × SegmentId)
  deriving DecidableEq, Repr

namespace Carriage

def binding (carriage : Carriage) (switch subnet : String) (number : Nat) : Binding where
  number := number
  switch := switch
  subnet := subnet
  vlan := carriage.vlan
  l2 := carriage.l2
  configured := carriage.configured
  router := carriage.attachment.map Prod.fst
  l3 := carriage.attachment.map Prod.snd

def router (carriage : Carriage) : String := (carriage.attachment.map Prod.fst).getD ""

def Named (carriage : Carriage) : Prop := ∀ router l3, carriage.attachment = some (router, l3) → router ≠ ""

end Carriage

abbrev CarriageMap := String × String → Option Carriage

namespace CarriageMap

def Named (map : CarriageMap) : Prop := ∀ key carriage, map key = some carriage → carriage.Named

theorem Named.update {map : CarriageMap} (named : map.Named) {key : String × String} {entry : Option Carriage}
    (well : ∀ carriage, entry = some carriage → carriage.Named) : CarriageMap.Named (Function.update map key entry) := by
  intro other carriage found
  by_cases here : other = key
  · subst here
    rw [Function.update_self] at found
    exact well carriage found
  · rw [Function.update_of_ne here] at found
    exact named other carriage found

end CarriageMap

inductive BindingWrite where
  | upsert (vlan : VlanId) (l2 : SegmentId)
  | mark
  | attach (router : String) (l3 : SegmentId)
  | detach
  | remove
  deriving DecidableEq, Repr

namespace BindingWrite

def operation : BindingWrite → String
  | .upsert .. => "upsert binding"
  | .mark => "mark l2 configured"
  | .attach .. => "attach router"
  | .detach => "detach router"
  | .remove => "remove binding"

def entry : BindingWrite → Option Carriage → Option Carriage
  | .upsert _ _, some carriage => some carriage
  | .upsert vlan l2, none => some { vlan, l2, configured := false, attachment := none }
  | .mark, held => held.map fun carriage => { carriage with configured := true }
  | .attach router l3, held => held.map fun carriage => { carriage with attachment := some (router, l3) }
  | .detach, held => held.map fun carriage => { carriage with attachment := none }
  | .remove, _ => none

def answer : BindingWrite → Option Carriage → Bool
  | .upsert .., held => held.isNone
  | .mark, held => held.any (!·.configured)
  | .attach .., held => held.isSome
  | .detach, held => held.isSome
  | .remove, held => held.isSome

def isNamed : BindingWrite → Bool
  | .attach router _ => router != ""
  | _ => true

theorem named_entry {write : BindingWrite} (named : write.isNamed = true) {held : Option Carriage}
    (well : ∀ carriage, held = some carriage → carriage.Named) {carriage : Carriage}
    (entry : write.entry held = some carriage) : carriage.Named := by
  intro router l3 attached
  cases write with
  | upsert vlan l2 =>
      cases held with
      | none => cases entry; cases attached
      | some before => cases entry; exact well _ rfl router l3 attached
  | mark =>
      obtain ⟨before, rfl, rfl⟩ := Option.map_eq_some_iff.mp entry
      exact well before rfl router l3 attached
  | attach name id =>
      obtain ⟨before, rfl, rfl⟩ := Option.map_eq_some_iff.mp entry
      cases attached
      exact bne_iff_ne.mp named
  | detach =>
      obtain ⟨before, rfl, rfl⟩ := Option.map_eq_some_iff.mp entry
      cases attached
  | remove => cases entry

end BindingWrite

structure BindingCommand where
  lock : Lock
  switch : String
  subnet : String
  write : BindingWrite
  deriving DecidableEq, Repr

namespace BindingCommand

def onTable (command : BindingCommand) (bindings : Bindings) : Except StoreError (Bool × Bindings) :=
  match command.write with
  | .upsert vlan l2 => bindings.upsert command.lock command.switch command.subnet vlan l2
  | .mark => bindings.mark command.lock command.switch command.subnet
  | .attach router l3 => bindings.attach command.lock command.switch command.subnet router l3
  | .detach => bindings.detach command.lock command.switch command.subnet
  | .remove => bindings.remove command.lock command.switch command.subnet

def onMap (command : BindingCommand) (map : CarriageMap) : Except StoreError (Bool × CarriageMap) := do
  command.lock.claim command.write.operation
  let held := map (command.switch, command.subnet)
  return (command.write.answer held,
    Function.update map (command.switch, command.subnet) (command.write.entry held))

variable {σ : Type} (perform : BindingCommand → σ → Except StoreError (Bool × σ))

def step (state : σ) (command : BindingCommand) : σ :=
  match perform command state with
  | .ok (_, after) => after
  | .error _ => state

/-- What the commands leave; one that is refused leaves all as it was. -/
def runAll (commands : List BindingCommand) (state : σ) : σ := commands.foldl (step perform) state

def answers : List BindingCommand → σ → List (Except StoreError Bool)
  | [], _ => []
  | command :: rest, state =>
      (perform command state).map Prod.fst :: answers rest (step perform state command)

end BindingCommand

def BindingRow.Continues (old row : BindingRow) : Prop :=
  old.number = row.number ∧ old.switch = row.switch ∧ old.subnet = row.subnet

namespace Bindings

variable {bindings after : Bindings} {map : CarriageMap} {switch subnet : String} {row : BindingRow}
  {entry : Option Carriage} {number : Nat}

theorem any_isFor (p : BindingRow → Bool) :
    bindings.rows.any (fun row => row.isFor switch subnet && p row) = (bindings.row? switch subnet).any p := by
  rw [Bool.eq_iff_iff, List.any_eq_true, Option.any_eq_true]
  simp only [Bool.and_eq_true, row?_eq_some_iff, BindingRow.isFor_iff, and_assoc]

def entryRow (switch subnet : String) (number : Nat) (entry : Option Carriage) : Option BindingRow :=
  entry.map fun carriage => (carriage.binding switch subnet number).row

/-- The rows are the entries of the map, each under some number. -/
def Encodes (bindings : Bindings) (map : CarriageMap) : Prop :=
  ∀ switch subnet, ∃ number, bindings.row? switch subnet = entryRow switch subnet number (map (switch, subnet))

/-- One pair gets another entry, under its old number or under a new one. -/
structure Changes (switch subnet : String) (entry : Option Carriage) (bindings after : Bindings) : Prop where
  elsewhere : SameBut switch subnet bindings after
  here : ∃ number, after.row? switch subnet = entryRow switch subnet number entry
  numbered : ∀ row, after.row? switch subnet = some row →
    (∃ old, bindings.row? switch subnet = some old ∧ old.number = row.number) ∨
      row.number = bindings.next ∧ bindings.next < after.next
  next : bindings.next ≤ after.next

theorem Changes.encodes (changes : Changes switch subnet entry bindings after) (encodes : bindings.Encodes map) :
    after.Encodes (Function.update map (switch, subnet) entry) := by
  intro s n
  by_cases here : s = switch ∧ n = subnet
  · obtain ⟨rfl, rfl⟩ := here
    simpa using changes.here
  · rw [changes.elsewhere s n here, Function.update_of_ne fun same => here (Prod.mk.inj same)]
    exact encodes s n

theorem changes_of_map (f : BindingRow → BindingRow) (elsewhere : SameBut switch subnet bindings after)
    (here : after.row? switch subnet = (bindings.row? switch subnet).map f)
    (keeps : ∀ row, (f row).number = row.number) (next : after.next = bindings.next)
    (held : ∃ number, (bindings.row? switch subnet).map f = entryRow switch subnet number entry) :
    Changes switch subnet entry bindings after := by
  refine ⟨elsewhere, here ▸ held, fun row found => Or.inl ?_, Nat.le_of_eq next.symm⟩
  rw [here] at found
  obtain ⟨old, known, rfl⟩ := Option.map_eq_some_iff.mp found
  exact ⟨old, known, (keeps old).symm⟩

theorem changes_upsert (vlan : VlanId) (l2 : SegmentId)
    (found : bindings.row? switch subnet = entryRow switch subnet number entry) :
    ∃ after, bindings.upsert .free switch subnet vlan l2 = .ok (entry.isNone, after) ∧
      Changes switch subnet (BindingWrite.entry (.upsert vlan l2) entry) bindings after := by
  let fresh : BindingRow := { number := 0, switch, subnet, vlan := vlan.val, l2 := l2.val, configured := false,
                              router := "", l3 := 0 }
  have told : bindings.upsert .free switch subnet vlan l2 = .ok (!bindings.contains switch subnet, bindings.add fresh) :=
    rfl
  rw [told, contains_eq_isSome, found]
  cases entry with
  | none =>
      have absent : bindings.row? fresh.switch fresh.subnet = none := found
      have here : (bindings.add fresh).row? switch subnet = some { fresh with number := bindings.next } := by
        rw [row?_add_of_absent absent, if_pos ⟨rfl, rfl⟩]
      refine ⟨_, rfl, sameBut_add absent, ⟨bindings.next, here⟩, fun row new => Or.inr ?_, Nat.le_succ _⟩
      cases here.symm.trans new
      exact ⟨rfl, Nat.lt_succ_self _⟩
  | some carriage =>
      have present : bindings.contains fresh.switch fresh.subnet = true := by
        rw [contains_eq_isSome, show bindings.row? fresh.switch fresh.subnet = _ from found]
        rfl
      rw [add_of_present present]
      exact ⟨_, rfl, fun _ _ _ => rfl, ⟨number, found⟩, fun row kept => Or.inl ⟨row, kept, rfl⟩, Nat.le_succ _⟩

theorem changes_mark (found : bindings.row? switch subnet = entryRow switch subnet number entry) :
    ∃ after, bindings.mark .free switch subnet = .ok (entry.any (!·.configured), after) ∧
      Changes switch subnet (BindingWrite.entry .mark entry) bindings after := by
  have told : bindings.mark .free switch subnet = .ok (bindings.rows.any (fun row => row.isFor switch subnet &&
      !row.configured), bindings.marked switch subnet) := rfl
  rw [told, any_isFor (!·.configured), found]
  refine ⟨bindings.marked switch subnet, by cases entry <;> rfl,
    changes_of_map (fun row => { row with configured := true }) (fun s n other => ?_) ?_ (fun _ => rfl) rfl
      ⟨number, ?_⟩⟩
  · rw [row?_marked, if_neg other]
  · rw [row?_marked, if_pos ⟨rfl, rfl⟩]
  · rw [found]
    cases entry <;> rfl

theorem changes_route {router : String} {l3 : Int}
    (routed : ∃ number, (bindings.row? switch subnet).map (fun row => { row with router, l3 }) =
      entryRow switch subnet number entry) :
    Changes switch subnet entry bindings (bindings.route switch subnet router l3) := by
  refine changes_of_map (fun row => { row with router, l3 }) sameBut_route ?_ (fun _ => rfl) rfl routed
  rw [row?_route, if_pos ⟨rfl, rfl⟩]

theorem changes_remove : Changes switch subnet none bindings (bindings.without switch subnet) := by
  have gone : (bindings.without switch subnet).row? switch subnet = none := by
    rw [row?_without, if_pos ⟨rfl, rfl⟩]
  refine ⟨sameBut_without, ⟨0, gone⟩, fun row found => ?_, Nat.le_refl _⟩
  cases gone.symm.trans found

theorem onTable_of_free {command : BindingCommand} (free : command.lock = .free)
    (found : bindings.row? command.switch command.subnet = entryRow command.switch command.subnet number entry) :
    ∃ after, command.onTable bindings = .ok (command.write.answer entry, after) ∧
      Changes command.switch command.subnet (command.write.entry entry) bindings after := by
  obtain ⟨lock, switch, subnet, write⟩ := command
  cases free
  have present : bindings.contains switch subnet = entry.isSome := by
    rw [contains_eq_isSome, found]
    cases entry <;> rfl
  cases write with
  | upsert vlan l2 => exact changes_upsert vlan l2 found
  | mark => exact changes_mark found
  | attach router l3 =>
      refine ⟨bindings.route switch subnet router l3.val, by rw [BindingWrite.answer, ← present]; rfl, ?_⟩
      refine changes_route ⟨number, ?_⟩
      rw [found]
      cases entry <;> rfl
  | detach =>
      refine ⟨bindings.route switch subnet "" 0, by rw [BindingWrite.answer, ← present]; rfl, ?_⟩
      refine changes_route ⟨number, ?_⟩
      rw [found]
      cases entry <;> rfl
  | remove => exact ⟨_, by rw [BindingWrite.answer, ← present]; rfl, changes_remove⟩

theorem Changes.mem_rows (changes : Changes switch subnet entry bindings after) (member : row ∈ after.rows) :
    (∃ old ∈ bindings.rows, old.Continues row) ∨
      row.number = bindings.next ∧ bindings.next < after.next ∧ row.switch = switch ∧ row.subnet = subnet := by
  have found := mem_rows_iff.mp member
  by_cases here : row.switch = switch ∧ row.subnet = subnet
  · obtain ⟨rfl, rfl⟩ := here
    rcases changes.numbered row found with ⟨old, known, same⟩ | ⟨fresh, taken⟩
    · obtain ⟨known, switch, subnet⟩ := row?_eq_some_iff.mp known
      exact Or.inl ⟨old, known, same, switch, subnet⟩
    · exact Or.inr ⟨fresh, taken, rfl, rfl⟩
  · rw [changes.elsewhere _ _ here] at found
    exact Or.inl ⟨row, mem_rows_iff.mpr found, rfl, rfl, rfl⟩

/-- Rows go on under their numbers, new rows have new ones. -/
structure Renews (bindings after : Bindings) : Prop where
  next : bindings.next ≤ after.next
  rows : ∀ row ∈ after.rows, (∃ old ∈ bindings.rows, old.Continues row) ∨ bindings.next ≤ row.number

theorem renews_refl : Renews bindings bindings :=
  ⟨Nat.le_refl _, fun row member => Or.inl ⟨row, member, rfl, rfl, rfl⟩⟩

theorem Renews.trans {mid : Bindings} (first : Renews bindings mid) (second : Renews mid after) :
    Renews bindings after := by
  refine ⟨Nat.le_trans first.next second.next, fun row member => ?_⟩
  rcases second.rows row member with ⟨between, known, number, switch, subnet⟩ | new
  · rcases first.rows between known with ⟨old, older, oldNumber, oldSwitch, oldSubnet⟩ | new
    · exact Or.inl ⟨old, older, oldNumber.trans number, oldSwitch.trans switch, oldSubnet.trans subnet⟩
    · exact Or.inr (number ▸ new)
  · exact Or.inr (Nat.le_trans first.next new)

structure Numbered (bindings : Bindings) : Prop where
  below : ∀ row ∈ bindings.rows, row.number < bindings.next
  apart : ∀ row ∈ bindings.rows, ∀ other ∈ bindings.rows, row.number = other.number → row = other

theorem Changes.renews (changes : Changes switch subnet entry bindings after) : Renews bindings after :=
  ⟨changes.next, fun _ member => (changes.mem_rows member).imp_right fun fresh => Nat.le_of_eq fresh.1.symm⟩

theorem Changes.numbered_after (changes : Changes switch subnet entry bindings after) (numbered : bindings.Numbered) :
    after.Numbered := by
  constructor
  · intro row member
    rcases changes.mem_rows member with ⟨old, known, same, _⟩ | ⟨fresh, taken, _⟩
    · exact same ▸ Nat.lt_of_lt_of_le (numbered.below old known) changes.next
    · exact fresh ▸ taken
  · intro row member other otherMember same
    rcases changes.mem_rows member with ⟨old, known, number, switch, subnet⟩ | ⟨fresh, _, switch, subnet⟩ <;>
      rcases changes.mem_rows otherMember with ⟨old', known', number', switch', subnet'⟩ |
        ⟨fresh', _, switch', subnet'⟩
    · have one := numbered.apart old known old' known' (number.trans (same.trans number'.symm))
      subst one
      exact eq_of_same member otherMember (switch.symm.trans switch') (subnet.symm.trans subnet')
    · have := numbered.below old known
      omega
    · have := numbered.below old' known'
      omega
    · exact eq_of_same member otherMember (switch.trans switch'.symm) (subnet.trans subnet'.symm)

end Bindings

namespace BindingCommand
open Bindings

variable {bindings : Bindings} {map : CarriageMap}

theorem onMap_of_free {command : BindingCommand} (free : command.lock = .free) :
    command.onMap map = .ok (command.write.answer (map (command.switch, command.subnet)),
      Function.update map (command.switch, command.subnet)
        (command.write.entry (map (command.switch, command.subnet)))) := by
  rw [onMap, free]
  rfl

theorem step_onTable (command : BindingCommand) (encodes : bindings.Encodes map) :
    (command.onTable bindings).map Prod.fst = (command.onMap map).map Prod.fst ∧
      (step onTable bindings command).Encodes (step onMap map command) ∧
      Renews bindings (step onTable bindings command) ∧
      (bindings.Numbered → (step onTable bindings command).Numbered) := by
  cases lock : command.lock with
  | held =>
      have refused : command.onTable bindings = .error (.database command.write.operation true) := by
        unfold onTable
        rw [lock]
        cases command.write <;> rfl
      have also : command.onMap map = .error (.database command.write.operation true) := by
        rw [onMap, lock]
        rfl
      rw [step, step, refused, also]
      exact ⟨rfl, encodes, renews_refl, id⟩
  | free =>
      obtain ⟨number, found⟩ := encodes command.switch command.subnet
      obtain ⟨after, done, changes⟩ := onTable_of_free lock found
      rw [step, step, done, onMap_of_free lock]
      exact ⟨rfl, changes.encodes encodes, changes.renews, changes.numbered_after⟩

theorem runAll_onTable (commands : List BindingCommand) (encodes : bindings.Encodes map) :
    answers onTable commands bindings = answers onMap commands map ∧
      (runAll onTable commands bindings).Encodes (runAll onMap commands map) ∧
      Renews bindings (runAll onTable commands bindings) ∧
      (bindings.Numbered → (runAll onTable commands bindings).Numbered) := by
  induction commands generalizing bindings map with
  | nil => exact ⟨rfl, encodes, renews_refl, id⟩
  | cons command rest ih =>
      obtain ⟨same, onward, renews, numbered⟩ := step_onTable command encodes
      obtain ⟨others, final, later, kept⟩ := ih onward
      refine ⟨?_, final, renews.trans later, fun good => kept (numbered good)⟩
      rw [answers, answers, same, others]

theorem named_runAll {commands : List BindingCommand} (named : ∀ command ∈ commands, command.write.isNamed = true)
    (well : map.Named) : (runAll onMap commands map).Named := by
  induction commands generalizing map with
  | nil => exact well
  | cons command rest ih =>
      refine ih (fun other member => named other (.tail _ member)) ?_
      unfold step
      cases lock : command.lock with
      | held =>
          rw [onMap, lock]
          exact well
      | free =>
          rw [onMap_of_free lock]
          exact well.update fun carriage => BindingWrite.named_entry (named command (.head _)) (well _)

end BindingCommand

namespace Bindings

variable {bindings : Bindings} {map : CarriageMap}

def Lists (map : CarriageMap) (number : String → String → Nat) (wanted : String → String → Carriage → Prop)
    (before : Binding → Binding → Prop) (answer : Except StoreError (List Binding)) : Prop :=
  ∃ found, answer = .ok found ∧ found.Pairwise before ∧
    ∀ binding, binding ∈ found ↔ ∃ switch subnet carriage, map (switch, subnet) = some carriage ∧
      wanted switch subnet carriage ∧ carriage.binding switch subnet (number switch subnet) = binding

structure Shows (bindings : Bindings) (map : CarriageMap) (number : String → String → Nat) : Prop where
  rows : ∀ switch subnet,
    bindings.row? switch subnet = entryRow switch subnet (number switch subnet) (map (switch, subnet))
  get : ∀ switch subnet, bindings.get switch subnet =
    .ok ((map (switch, subnet)).map (·.binding switch subnet (number switch subnet)))
  onSubnet : ∀ subnet, Lists map number (fun _ name _ => name = subnet) (fun a b => a.switch < b.switch)
    (bindings.onSubnet subnet)
  ofRouter : ∀ switch router, Lists map number
    (fun name _ carriage => name = switch ∧ carriage.router = router) (fun a b => a.subnet < b.subnet)
    (bindings.ofRouter switch router)
  list : Lists map number (fun _ _ _ => True)
    (fun a b => a.switch < b.switch ∨ a.switch = b.switch ∧ a.subnet < b.subnet) bindings.list

variable {number : String → String → Nat}

theorem named_binding {carriage : Carriage} (named : carriage.Named) (switch subnet : String) (number : Nat) :
    (carriage.binding switch subnet number).router ≠ some "" := by
  intro nameless
  obtain ⟨⟨router, l3⟩, attached, rfl⟩ := Option.map_eq_some_iff.mp nameless
  exact named _ l3 attached rfl

section Reading

variable (named : map.Named) (rows : ∀ switch subnet,
  bindings.row? switch subnet = entryRow switch subnet (number switch subnet) (map (switch, subnet)))

include named rows

theorem legible_of_rows : bindings.Legible := by
  intro row member
  have found := mem_rows_iff.mp member
  rw [rows] at found
  obtain ⟨carriage, held, same⟩ := Option.map_eq_some_iff.mp found
  exact ⟨_, named_binding (named _ carriage held) _ _ _, same⟩

theorem mem_rows_of_entry {binding : Binding} : binding.router ≠ some "" ∧ binding.row ∈ bindings.rows ↔
    ∃ switch subnet carriage, map (switch, subnet) = some carriage ∧
      carriage.binding switch subnet (number switch subnet) = binding := by
  constructor
  · rintro ⟨good, member⟩
    have found := mem_rows_iff.mp member
    rw [rows] at found
    obtain ⟨carriage, held, same⟩ := Option.map_eq_some_iff.mp found
    exact ⟨_, _, carriage, held, Binding.eq_of_row (named_binding (named _ carriage held) _ _ _) good same⟩
  · rintro ⟨switch, subnet, carriage, held, rfl⟩
    refine ⟨named_binding (named _ carriage held) _ _ _, mem_rows_iff.mpr ?_⟩
    refine (rows switch subnet).trans ?_
    rw [held]
    rfl

theorem get_of_rows (switch subnet : String) : bindings.get switch subnet =
    .ok ((map (switch, subnet)).map (·.binding switch subnet (number switch subnet))) := by
  have found := rows switch subnet
  cases held : map (switch, subnet) with
  | none =>
      rw [held] at found
      exact get_of_absent found
  | some carriage =>
      rw [held] at found
      exact get_of_row (named_binding (named _ carriage held) _ _ _) found

theorem lists_of_rows (wanted : BindingRow → Bool) {entries : String → String → Carriage → Prop}
    {before : Binding → Binding → Prop}
    (picks : ∀ switch subnet carriage, wanted (carriage.binding switch subnet (number switch subnet)).row = true ↔
      entries switch subnet carriage)
    (orders : ∀ a b : Binding, wanted a.row = true → wanted b.row = true → a.row.precedes b.row → before a b) :
    Lists map number entries before ((bindings.rows.filter wanted).mapM BindingRow.decode) := by
  obtain ⟨found, read, sorted, members⟩ := (legible_of_rows named rows).read wanted
  refine ⟨found, read, sorted.imp_of_mem fun {a b} first second => ?_, fun binding => ?_⟩
  · exact orders a b ((members a).mp first).2.2 ((members b).mp second).2.2
  · rw [members, ← and_assoc, mem_rows_of_entry named rows]
    constructor
    · rintro ⟨⟨switch, subnet, carriage, held, rfl⟩, listed⟩
      exact ⟨switch, subnet, carriage, held, (picks switch subnet carriage).mp listed, rfl⟩
    · rintro ⟨switch, subnet, carriage, held, chosen, rfl⟩
      exact ⟨⟨switch, subnet, carriage, held, rfl⟩, (picks switch subnet carriage).mpr chosen⟩

theorem shows_of_rows : bindings.Shows map number := by
  refine ⟨rows, get_of_rows named rows, fun subnet => ?_, fun switch router => ?_, ?_⟩
  · refine lists_of_rows named rows _ (fun _ name _ => beq_iff_eq) fun a b first second before => ?_
    refine before.resolve_right fun same => ?_
    rw [beq_iff_eq.mp first, beq_iff_eq.mp second] at same
    exact String.lt_irrefl subnet same.2
  · refine lists_of_rows named rows _ (fun name _ carriage => by simp; rfl) fun a b first second before => ?_
    simp only [Bool.and_eq_true, beq_iff_eq] at first second
    refine (before.resolve_left fun less => ?_).2
    rw [first.1, second.1] at less
    exact String.lt_irrefl switch less
  · have whole := lists_of_rows named rows (fun _ => true)
      (fun _ _ _ => iff_of_true rfl trivial) fun a b _ _ before => before
    rwa [List.filter_true] at whole

end Reading

open BindingCommand

theorem encodes_empty : empty.Encodes fun _ => none := fun _ _ => ⟨0, rfl⟩

theorem numbered_empty : empty.Numbered := ⟨by simp [empty], by simp [empty]⟩

theorem runAll_append {σ : Type} {perform : BindingCommand → σ → Except StoreError (Bool × σ)}
    (earlier later : List BindingCommand) (state : σ) :
    runAll perform (earlier ++ later) state = runAll perform later (runAll perform earlier state) :=
  List.foldl_append

theorem kept_between {earlier later mid : List BindingCommand} {row other : BindingRow} (before : mid <+: later)
    (first : row ∈ (runAll onTable earlier .empty).rows)
    (last : other ∈ (runAll onTable (earlier ++ later) .empty).rows) (same : row.number = other.number) :
    ∃ kept ∈ (runAll onTable (earlier ++ mid) .empty).rows, kept.Continues other := by
  obtain ⟨rest, rfl⟩ := before
  obtain ⟨_, encodes, _, numbered⟩ := runAll_onTable earlier encodes_empty
  obtain ⟨_, between, grown, _⟩ := runAll_onTable mid encodes
  obtain ⟨_, _, later, _⟩ := runAll_onTable rest between
  rw [← List.append_assoc, runAll_append, runAll_append] at last
  rw [runAll_append]
  -- A row that came later has a number that was not given out before.
  rcases later.rows other last with kept | new
  · exact kept
  · have := (numbered numbered_empty).below row first
    have := grown.next
    omega

/-- Commands answer on the table as on the map and leave the image of the map, read in order; a number belongs
to one row for as long as that lasts, and to no other row after it. -/
theorem refines_map (commands : List BindingCommand) (named : ∀ command ∈ commands, command.write.isNamed = true) :
    answers onTable commands .empty = answers onMap commands (fun _ => none) ∧
      (∃ number, (runAll onTable commands .empty).Shows (runAll onMap commands fun _ => none) number) ∧
      ((runAll onTable commands .empty).rows.map (·.number)).Nodup ∧
      ∀ earlier later, commands = earlier ++ later → ∀ row ∈ (runAll onTable earlier .empty).rows,
        ∀ other ∈ (runAll onTable commands .empty).rows, row.number = other.number →
          row.Continues other ∧
            ∀ mid, mid <+: later → ∃ kept ∈ (runAll onTable (earlier ++ mid) .empty).rows, kept.Continues other := by
  obtain ⟨told, encodes, _, numbered⟩ := runAll_onTable commands encodes_empty
  have well : (runAll onMap commands fun _ => none).Named := named_runAll named fun _ _ none => nomatch none
  refine ⟨told, ?_, (nodup_rows _).map_on (numbered numbered_empty).apart, ?_⟩
  · choose number rows using encodes
    exact ⟨number, shows_of_rows well rows⟩
  · rintro earlier later rfl row first other last same
    refine ⟨?_, fun mid before => kept_between before first last same⟩
    obtain ⟨kept, known, continues⟩ := kept_between List.nil_prefix first last same
    rw [List.append_nil] at known
    obtain ⟨_, _, _, apart⟩ := runAll_onTable earlier encodes_empty
    exact (apart numbered_empty).apart kept known row first (continues.1.trans same.symm) ▸ continues

def broughtBack : List BindingCommand :=
  [⟨.free, "10.0.0.1", "s1", .upsert ⟨105, by decide, by decide⟩ ⟨5000, by decide, by decide⟩⟩,
   ⟨.free, "10.0.0.1", "s1", .attach "r1" ⟨103, by decide, by decide⟩⟩,
   ⟨.held, "10.0.0.1", "s1", .detach⟩,
   ⟨.free, "10.0.0.1", "s1", .remove⟩,
   ⟨.free, "10.0.0.1", "s1", .mark⟩,
   ⟨.free, "10.0.0.1", "s1", .upsert ⟨106, by decide, by decide⟩ ⟨5000, by decide, by decide⟩⟩]

theorem refines_map_when_brought_back :
    (∀ command ∈ broughtBack, command.write.isNamed = true) ∧
      answers onTable broughtBack .empty =
        [.ok true, .ok true, .error (.database "detach router" true), .ok true, .ok false, .ok true] ∧
      ∀ row ∈ (runAll onTable (broughtBack.take 3) .empty).rows,
        ∀ other ∈ (runAll onTable broughtBack .empty).rows, row.number ≠ other.number := by
  have named : ∀ command ∈ broughtBack, command.write.isNamed = true := by decide
  obtain ⟨told, _, _, unused⟩ := refines_map broughtBack named
  refine ⟨named, told.trans (by decide +kernel), fun row first other last same => ?_⟩
  obtain ⟨_, kept⟩ := unused (broughtBack.take 3) (broughtBack.drop 3) (List.take_append_drop 3 _).symm row first
    other last same
  obtain ⟨gone, member, _⟩ := kept ((broughtBack.drop 3).take 1) (List.take_prefix 1 _)
  have empty : (runAll onTable (broughtBack.take 3 ++ (broughtBack.drop 3).take 1) .empty).rows = [] := by
    decide +kernel
  rw [empty] at member
  cases member

end Bindings
end OverlayFabric
