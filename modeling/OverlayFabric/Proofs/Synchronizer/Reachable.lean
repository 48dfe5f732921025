import OverlayFabric.Proofs.Configuration.Ranges
import OverlayFabric.Proofs.Synchronizer.Work

namespace OverlayFabric

structure Store.Sound (store : Store) : Prop where
  settled : store.bindings.Settled
  pools : ∀ pool : Pool, pool.Sound (store.rows pool)

theorem Store.sound_empty : ({} : Store).Sound := by
  refine ⟨Bindings.settled_empty, fun pool => ?_⟩
  cases pool <;> exact Pool.sound_nil

variable {ω : Type} {store before after : Store} {ranges : PoolRanges} {kept : String → Prop}

theorem SegmentId.named (segment : SegmentId) : Pool.l2Segment.Names segment.val := ⟨segment.pos, segment.le_top⟩

theorem Allocators.Does.proper {pool : Pool} {op : Pool.Operation} (proper : ranges.Proper)
    (does : (Allocators.ofRanges ranges).Does kept pool op) : pool.Proper op := by
  cases does with
  | l2 lock action valid =>
      refine ⟨Pool.admits_of_unscoped rfl, proper.l2, fun id owner asked => ?_⟩
      obtain ⟨segment, rfl⟩ := valid id owner asked
      exact segment.named
  | l3 lock action granted =>
      exact ⟨Pool.admits_of_unscoped rfl, proper.l3, fun id owner asked => absurd asked (granted id owner)⟩
  | border lock switch action granted =>
      exact ⟨fun _ => rfl, proper.border switch, fun id owner asked => absurd asked (granted id owner)⟩

namespace Store

theorem pools_act {pool : Pool} {op : Pool.Operation} (pools : ∀ other : Pool, other.Sound (store.rows other))
    (proper : pool.Proper op) (other : Pool) : other.Sound ((store.act pool op).rows other) := by
  by_cases same : other = pool
  · subst same
    rw [rows_act]
    exact (pools other).after proper
  · rw [rows_act_of_ne same]
    exact pools other

theorem Sound.act (sound : store.Sound) {pool : Pool} {op : Pool.Operation} (proper : pool.Proper op) :
    (store.act pool op).Sound := by
  refine ⟨?_, pools_act sound.pools proper⟩
  rw [bindings_act]
  exact sound.settled

theorem Sound.wrought (sound : before.Sound) (proper : ranges.Proper)
    (wrought : Wrought ((Allocators.ofRanges ranges).Acts kept) before after) : after.Sound := by
  induction wrought with
  | refl => exact sound
  | tail _ work ih =>
      obtain ⟨pool, op, does, rfl⟩ := work
      exact ih.act (does.proper proper)

end Store

namespace Synchronizer

variable {sync : Synchronizer ω} {goal : Option (String × String)} {site later : Site ω}

theorem Move.pools (move : Move sync goal site later) :
    (∀ pool, later.store.rows pool = site.store.rows pool) ∨ ∃ subnet owner, goal = some (subnet, owner) ∧
      later = site.withStore (sync.allocators.l3.drawn owner site.store) := by
  cases move with
  | drawn owner aimed =>
      obtain ⟨subnet, aimed⟩ := aimed
      exact Or.inr ⟨subnet, owner, aimed, rfl⟩
  | heard | refused | attachRefused => exact Or.inl fun _ => rfl
  | counted | bound | unbound | attached | detached => exact Or.inl fun _ => Store.rows_withBindings

theorem Moves.drawn (moves : Moves sync goal site later) :
    later.store.rows sync.allocators.l3.pool = site.store.rows sync.allocators.l3.pool ∨
      ∃ subnet owner, goal = some (subnet, owner) ∧ later.store.rows sync.allocators.l3.pool =
        (sync.allocators.l3.drawn owner site.store).rows sync.allocators.l3.pool := by
  induction moves with
  | refl => exact Or.inl rfl
  | tail earlier move ih =>
      rcases move.pools with same | ⟨subnet, owner, aimed, rfl⟩
      · rw [same]
        exact ih
      · -- Every draw is for the one router of the goal, and a second draw finds the row of the first.
        right
        refine ⟨subnet, owner, aimed, ?_⟩
        simp only [Site.store_withStore, SegmentPool.drawn, Store.rows_act]
        rcases ih with same | ⟨_, _, also, once⟩
        · rw [same]
        · cases aimed.symm.trans also
          rw [once, SegmentPool.drawn, Store.rows_act]
          exact Pool.after_allocate_again

theorem Moves.sound (sound : site.store.Sound) (proper : ranges.Proper)
    (served : sync.allocators = .ofRanges ranges) (moves : Moves sync goal site later) : later.store.Sound := by
  induction moves with
  | refl => exact sound
  | tail _ move ih =>
      refine ⟨move.settled ih.settled, fun pool => ?_⟩
      rcases move.pools with same | ⟨_, owner, _, rfl⟩
      · rw [same]
        exact ih.pools pool
      · have drew : sync.allocators.Does (fun _ => False) sync.allocators.l3.pool
            ⟨.free, none, sync.allocators.l3.ranges, .allocate owner⟩ := .l3 .free _
        rw [served] at drew
        have drawn := ih.act (drew.proper proper)
        rw [served]
        exact drawn.pools pool

theorem sound_after {event : Event} (alone : sync.outside.Alone) (proper : ranges.Proper)
    (served : sync.allocators = .ofRanges ranges) (sound : site.store.Sound) : (sync.after event site).store.Sound := by
  cases onLeaves : event.isOnLeaves with
  | true => exact (moves_after alone sound.settled onLeaves).sound sound proper served
  | false =>
      have spares : event.Spares fun _ => False := by cases event <;> simp [Event.Spares]
      have works : Task.Works (sync.allocators.Acts fun _ => False) (sync.handle event) := works_handle onLeaves spares
      rw [served] at works
      exact sound.wrought proper (works site)

theorem sound_start (proper : ranges.Proper) (served : sync.allocators = .ofRanges ranges)
    (sound : site.store.Sound) : (sync.start.run site).2.store.Sound := by
  have works : Task.Works (sync.allocators.Acts fun _ => False) sync.start := works_start fun _ => id
  rw [served] at works
  exact sound.wrought proper (works site)

end Synchronizer

open Synchronizer in
/-- From the empty store on, each start and each event under a configuration that passes its check,
before any cloud and any fabric and with no other writer. -/
inductive Store.Reachable : Store → Prop where
  | empty : Reachable {}
  | started {ω : Type} {configuration : Configuration} {ranges : PoolRanges} {outside : Outside ω} {site : Site ω}
      (before : Reachable site.store) (checked : configuration.check = .ok ranges) :
      Reachable ((ofConfiguration configuration ranges outside).start.run site).2.store
  | handled {ω : Type} {configuration : Configuration} {ranges : PoolRanges} {outside : Outside ω} {site : Site ω}
      (event : Event) (before : Reachable site.store) (checked : configuration.check = .ok ranges)
      (alone : outside.Alone) :
      Reachable ((ofConfiguration configuration ranges outside).after event site).store

theorem Store.Reachable.sound (reachable : store.Reachable) : store.Sound := by
  induction reachable with
  | empty => exact sound_empty
  | started _ checked ih => exact Synchronizer.sound_start (Configuration.proper_of_check checked) rfl ih
  | handled event _ checked alone ih =>
      exact Synchronizer.sound_after alone (Configuration.proper_of_check checked) rfl ih

def Outside.refusing (refused : Call → Bool) (subnet : Subnet) (interface : Option RouterInterface) : Outside Unit where
  ask query state :=
    match query with
    | .segmentOf network => (.ok (some ⟨network, .externalNet, some "out", none⟩), state)
    | query => (Outside.small subnet interface).ask query state
  send call state := if refused call then (.error (.invalidRequest "refused"), state) else (.ok (), state)
  lock _ := .free

def Call.isPushL2On (switch : String) : Call → Bool
  | .pushL2 request => request.switch == switch
  | _ => false

def Call.isPushVrf : Call → Bool
  | .pushVrf _ => true
  | _ => false

def RangeSet.only (id : Nat) : RangeSet := { ranges := [⟨id, id, Nat.le_refl id⟩] }

def PoolRanges.bordered : PoolRanges where
  l2 := .only 5000
  l3 := .only 100
  border := { pairs := [("10.0.0.8", .only 200), ("10.0.0.9", .only 200)], sorted := by decide +kernel }

theorem Configuration.check_bordered : Configuration.bordered.check = .ok .bordered := by decide +kernel

def Store.bordered : Store where
  l2 := [⟨none, 5000, ""⟩]
  l3 := [⟨none, 100, ""⟩]
  border := [⟨some "10.0.0.8", 200, ""⟩, ⟨some "10.0.0.9", 200, ""⟩]

theorem Allocators.syncAll_bordered : ∃ summary,
    ((Allocators.ofRanges .bordered).syncAll .free).run {} = (.ok summary, .bordered) := by
  let laid : Store := { l2 := [⟨none, 5000, ""⟩], l3 := [⟨none, 100, ""⟩] }
  have switches : (Allocators.ofRanges .bordered).border.toSync laid = ["10.0.0.8", "10.0.0.9"] := by decide +kernel
  have borders : ((Allocators.ofRanges .bordered).border.syncEach .free ["10.0.0.8", "10.0.0.9"]).run laid =
      (.ok [("10.0.0.8", ⟨1, 0, 0⟩), ("10.0.0.9", ⟨1, 0, 0⟩)], .bordered) := by
    simp only [BorderPool.syncEach]
    unfold Pool.sync
    simp only [Pool.missing_eq_filter]
    decide +kernel
  have asked : (StoreM.read fun store => .ok ((Allocators.ofRanges .bordered).border.toSync store)).run laid =
      (.ok ["10.0.0.8", "10.0.0.9"], laid) := by rw [StoreM.run_read, switches]
  have synced : ((Allocators.ofRanges .bordered).border.sync .free).run laid =
      (.ok (.ofList [("10.0.0.8", ⟨1, 0, 0⟩), ("10.0.0.9", ⟨1, 0, 0⟩)]), .bordered) := by
    unfold BorderPool.sync
    rw [StoreM.run_bind_of_run asked, StoreM.run_bind_of_run borders]
    rfl
  unfold syncAll
  rw [StoreM.run_bind_of_run (SegmentPool.run_sync_of_empty rfl rfl),
    StoreM.run_bind_of_run (SegmentPool.run_sync_of_empty rfl rfl)]
  exact ⟨_, StoreM.run_bind_of_run synced⟩

theorem Synchronizer.run_start_of_laid {ω : Type} {sync : Synchronizer ω} {site : Site ω} {store : Store}
    {summary : SyncSummary} {report : ReapReport} (alone : sync.outside.Alone)
    (laid : (sync.allocators.syncAll .free).run site.store = (.ok summary, store))
    (reaped : sync.reap.run (site.withStore store) = (.ok report, site.withStore store)) :
    (sync.start.run site).2 = site.withStore store := by
  have synced : sync.syncAll.run site = (.ok summary, site.withStore store) := by
    unfold syncAll Task.run Task.store
    simp only [alone site.outside, laid]
    rfl
  unfold start
  rw [Task.run_bind, synced]
  simp only
  rw [Task.run_bind, reaped]
  rfl

theorem Synchronizer.run_start_bordered {subnet : Subnet} {interface : Option RouterInterface} :
    ((ofConfiguration .bordered .bordered (.small subnet interface)).start.run ⟨{}, [], ()⟩).2 =
      ⟨.bordered, [], ()⟩ := by
  let sync : Synchronizer Unit := ofConfiguration .bordered .bordered (.small subnet interface)
  obtain ⟨summary, laid⟩ := Allocators.syncAll_bordered
  have reaped : sync.reap.run ⟨.bordered, [], ()⟩ = (.ok ⟨[], [], []⟩, ⟨.bordered, [], ()⟩) := rfl
  exact run_start_of_laid (fun _ => rfl) laid reaped

theorem Store.Reachable.bordered : Store.bordered.Reachable := by
  have started := @Store.Reachable.started _ _ _ (.small ⟨"", "", "", none⟩ none) ⟨{}, [], ()⟩ .empty
    Configuration.check_bordered
  rwa [Synchronizer.run_start_bordered] at started

def Configuration.paired : Configuration :=
  { Configuration.twin with
    pools := { l2Ranges := ["5000:5000"], l3Ranges := ["100:101"] }
    borderSwitches := .empty }

def PoolRanges.paired : PoolRanges where
  l2 := .only 5000
  l3 := { ranges := [⟨100, 101, by decide⟩] }
  border := .empty

theorem Configuration.check_paired : Configuration.paired.check = .ok .paired := by decide +kernel

def Store.paired : Store where
  l2 := [⟨none, 5000, ""⟩]
  l3 := [⟨none, 100, ""⟩, ⟨none, 101, ""⟩]

theorem Allocators.syncAll_paired : ∃ summary,
    ((Allocators.ofRanges .paired).syncAll .free).run {} = (.ok summary, .paired) := by
  have nowhere : (Allocators.ofRanges .paired).border.toSync .paired = [] := by decide +kernel
  have asked : (StoreM.read fun store => .ok ((Allocators.ofRanges .paired).border.toSync store)).run .paired =
      (.ok [], .paired) := by rw [StoreM.run_read, nowhere]
  have synced : ((Allocators.ofRanges .paired).border.sync .free).run .paired = (.ok (.ofList []), .paired) := by
    unfold BorderPool.sync
    rw [StoreM.run_bind_of_run asked]
    rfl
  unfold syncAll
  rw [StoreM.run_bind_of_run (SegmentPool.run_sync_of_empty rfl rfl),
    StoreM.run_bind_of_run (SegmentPool.run_sync_of_empty rfl rfl)]
  exact ⟨_, StoreM.run_bind_of_run synced⟩

theorem Store.Reachable.paired : Store.paired.Reachable := by
  let outside : Outside Unit := .small ⟨"", "", "", none⟩ none
  let sync : Synchronizer Unit := .ofConfiguration .paired .paired outside
  obtain ⟨summary, laid⟩ := Allocators.syncAll_paired
  have reaped : sync.reap.run ⟨.paired, [], ()⟩ = (.ok ⟨[], [], []⟩, ⟨.paired, [], ()⟩) := rfl
  have ran : (sync.start.run ⟨{}, [], ()⟩).2 = ⟨.paired, [], ()⟩ :=
    Synchronizer.run_start_of_laid (fun _ => rfl) laid reaped
  have started := @Store.Reachable.started _ _ _ outside ⟨{}, [], ()⟩ .empty Configuration.check_paired
  rwa [ran] at started

end OverlayFabric
