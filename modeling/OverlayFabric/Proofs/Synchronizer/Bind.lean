import OverlayFabric.Proofs.Store.Lending
import OverlayFabric.Proofs.Synchronizer.Reachable

namespace OverlayFabric.Synchronizer

variable {ω : Type} {sync : Synchronizer ω} {site after : Site ω} {ranges : PoolRanges} {port : Port}
  {segments : PortSegments}

structure LeftBehind (sync : Synchronizer ω) (port : Port) (segments : PortSegments) (site after : Site ω) : Prop where
  rows : after.store.bindings = site.store.bindings ∨ ∃ subnet rest,
    (sync.outside.ask (.subnetsOf port.networkId) site.outside).1 = .ok (subnet :: rest) ∧
      KeepsRowsBut (sync.leavesFor port segments).dropLast subnet.id site.store.bindings after.store.bindings
  l3 : after.store.l3 = site.store.l3 ∨ ∃ subnet router, ∃ segment : SegmentId,
    sync.portGoal port site.outside = some (subnet, router) ∧ (∀ row ∈ site.store.l3, row.owner ≠ router) ∧
      after.store.l3 = Pool.l3Segment.lend [(none, segment.val)] router site.store.l3

theorem LeftBehind.rows_of_single (left : LeftBehind sync port segments site after)
    (single : (sync.leavesFor port segments).length ≤ 1) : after.store.bindings.rows = site.store.bindings.rows := by
  rcases left.rows with same | ⟨subnet, _, _, kept⟩
  · rw [same]
  have earlier : (sync.leavesFor port segments).dropLast = [] := by
    apply List.eq_nil_of_length_eq_zero
    rw [List.length_dropLast]
    omega
  rw [earlier] at kept
  apply Bindings.rows_eq_of_row?
  intro s n
  simpa using kept s n

theorem Moves.lent {goal : Option (String × String)} (served : sync.allocators = .ofRanges ranges)
    (sound : site.store.Sound) (moves : Moves sync goal site after) : after.store.l3 = site.store.l3 ∨
      ∃ subnet router, ∃ segment : SegmentId, goal = some (subnet, router) ∧ (∀ row ∈ site.store.l3, row.owner ≠ router) ∧
        after.store.l3 = Pool.l3Segment.lend [(none, segment.val)] router site.store.l3 := by
  have pool : sync.allocators.l3 = ⟨.l3Segment, ranges.l3⟩ := by rw [served]; rfl
  have drawn := moves.drawn
  rw [pool] at drawn
  rcases drawn with same | ⟨subnet, router, aimed, once⟩
  · exact Or.inl same
  · have once : after.store.l3 = Pool.l3Segment.after site.store.l3 ⟨.free, none, ranges.l3, .allocate router⟩ := once
    rcases (sound.pools .l3Segment).after_allocate_cases rfl with kept | ⟨unheld, id, named, lent⟩
    · exact Or.inl (once.trans kept)
    · obtain ⟨segment, rfl⟩ := named.segment
      exact Or.inr ⟨subnet, router, segment, aimed, unheld, once.trans lent⟩

theorem leads_left (alone : sync.outside.Alone) (served : sync.allocators = .ofRanges ranges)
    (sound : site.store.Sound) : Task.Leads (sync.configure port segments) site fun result after =>
      ∀ e, result = .error e → LeftBehind sync port segments site after := by
  apply (leads_configure alone sound.settled).mono
  intro result after ⟨moves, changed⟩ e same
  refine ⟨changed.imp_right ?_, moves.lent served sound⟩
  rintro ⟨subnet, rest, asked, _, failed⟩
  exact ⟨subnet, rest, asked, failed e same⟩

/-- A port that cannot be bound leaves the rows as they were but for its subnet on the leaves before the
last, so all of them where one leaf takes it; the segments of layer 3 but for one that its router drew. -/
theorem failed_bind_leaves {configuration : Configuration} {outside : Outside ω} {e : SyncError} (alone : outside.Alone)
    (reachable : site.store.Reachable) :
    let sync := ofConfiguration configuration ranges outside
    ((sync.portBound port segments).run site = (.error e, after) → LeftBehind sync port segments site after ∧
      ((sync.leavesFor port segments).length ≤ 1 → after.store.bindings.rows = site.store.bindings.rows)) ∧
    ∀ event : PortEvent, event.isMigrating = false → event.port.status.isDown = false →
      (sync.updatePort event).run site = (.error e, after) →
      ∃ segments, event.segments = some segments ∧ LeftBehind sync event.port segments site after ∧
        ((sync.leavesFor event.port segments).length ≤ 1 →
          after.store.bindings.rows = site.store.bindings.rows) := by
  intro sync
  have binds (port : Port) (segments : PortSegments) (failed : (sync.configure port segments).run site = (.error e, after)) :
      LeftBehind sync port segments site after := by
    have leads : Task.Leads (sync.configure port segments) site _ := leads_left alone rfl reachable.sound
    exact leads.of_run failed e rfl
  constructor
  · intro failed
    have left := binds port segments failed
    exact ⟨left, left.rows_of_single⟩
  · intro event steady up failed
    simp only [updatePort, steady, up, Bool.or_self, Bool.false_eq_true, if_false] at failed
    split at failed
    · split at failed
      · next segments given =>
          have left := binds event.port segments failed
          exact ⟨segments, given, left, left.rows_of_single⟩
      · cases failed
    · cases failed

theorem failed_bind_leaves_on_second_leaf :
    let sync : Synchronizer Unit := ofConfiguration .twin .bordered
      (.refusing (Call.isPushL2On "10.0.0.2") ⟨"inner", "net", "10.1.0.0/24", none⟩ none)
    let port : Port := ⟨"port", "net", "tenant", "compute:x", "host", .active⟩
    let segments : PortSegments := ⟨⟨7, by decide, by decide⟩, ⟨5, by decide, by decide⟩, "blue"⟩
    ∃ e after, (sync.portBound port segments).run ⟨.bordered, [], ()⟩ = (.error e, after) ∧
      LeftBehind sync port segments ⟨.bordered, [], ()⟩ after := by
  intro sync port segments
  have refused : ((sync.portBound port segments).run ⟨.bordered, [], ()⟩).1 =
      .error (.fabric (.invalidRequest "refused")) := by decide +kernel
  obtain ⟨after, failed⟩ := Task.run_of_result refused
  have left := (failed_bind_leaves (fun _ => rfl) .bordered).1 failed
  exact ⟨_, after, failed, left.1⟩

/-- The row of the first leaf stays when the second refuses layer 2, and the segment that the router drew
stays when the first refuses its interface. -/
theorem failed_bind_leaves_row_and_segment :
    let subnet : Subnet := ⟨"inner", "net", "10.1.0.0/24", none⟩
    let port : Port := ⟨"port", "net", "tenant", "compute:x", "host", .active⟩
    let segments : PortSegments := ⟨⟨7, by decide, by decide⟩, ⟨5, by decide, by decide⟩, "blue"⟩
    let second : Synchronizer Unit := ofConfiguration .twin .bordered
      (.refusing (Call.isPushL2On "10.0.0.2") subnet none)
    let unrouted : Synchronizer Unit := ofConfiguration .twin .bordered
      (.refusing Call.isPushVrf subnet (some ⟨"router", "inner", "net", "tenant"⟩))
    let row := (second.portBound port segments).run ⟨.bordered, [], ()⟩
    let segment := (unrouted.portBound port segments).run ⟨.bordered, [], ()⟩
    Configuration.twin.check = .ok .bordered ∧ Store.bordered.Reachable ∧
      (row.1 = .error (.fabric (.invalidRequest "refused")) ∧ Store.bordered.bindings.rows = [] ∧
        row.2.store.bindings.rows.map (fun row => (row.switch, row.subnet)) = [("10.0.0.1", "inner")]) ∧
      segment.1 = .error (.fabric (.invalidRequest "refused")) ∧ Store.bordered.l3 = [⟨none, 100, ""⟩] ∧
        segment.2.store.l3 = [⟨none, 100, "router"⟩] := by
  exact ⟨by decide +kernel, .bordered, by decide +kernel, by decide +kernel⟩

end OverlayFabric.Synchronizer
