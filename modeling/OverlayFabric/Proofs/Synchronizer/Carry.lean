import OverlayFabric.Proofs.Pool.Ownership
import OverlayFabric.Proofs.Store.Lending
import OverlayFabric.Proofs.Synchronizer.Reachable

namespace OverlayFabric

namespace Synchronizer

variable {ω : Type} {sync : Synchronizer ω} {goal : Option (String × String)} {site later : Site ω}
  {ranges : PoolRanges} {kept : String → Prop}

structure Carries (store : Store) : Prop where
  sound : store.Sound
  single : Pool.l3Segment.Single store.l3
  carried : ∀ row ∈ store.bindings.rows, row.router ≠ "" → Pool.l3Segment.Holds store.l3 none row.l3 row.router

theorem Carries.act {store : Store} (carries : Carries store) {pool : Pool} {op : Pool.Operation}
    (proper : ranges.Proper) (does : (Allocators.ofRanges ranges).Does kept pool op)
    (routed : ∀ row ∈ store.bindings.rows, row.router ≠ "" → kept row.router) : Carries (store.act pool op) := by
  have sound := carries.sound.act (does.proper proper)
  have distinct := (carries.sound.pools .l3Segment).distinct
  have bindings : (store.act pool op).bindings = store.bindings := Store.bindings_act
  cases does with
  | l2 => exact ⟨sound, carries.single, carries.carried⟩
  | border => exact ⟨sound, carries.single, carries.carried⟩
  | l3 lock action granted spares =>
      have admits : Pool.l3Segment.Admits none := Pool.admits_of_unscoped rfl
      refine ⟨sound, carries.single.after distinct admits granted, fun row member named => ?_⟩
      rw [bindings] at member
      have spared := spares row.router (routed row member named)
      refine (carries.carried row member named).after distinct admits named ?_
      rintro ⟨_, release | ⟨id, _, releaseId⟩⟩
      · exact spared.1 release
      · exact spared.2 id releaseId

theorem Carries.wrought {before after : Store} (carries : Carries before) (proper : ranges.Proper)
    (routed : ∀ row ∈ before.bindings.rows, row.router ≠ "" → kept row.router)
    (wrought : Store.Wrought ((Allocators.ofRanges ranges).Acts kept) before after) : Carries after := by
  induction wrought with
  | refl => exact carries
  | tail earlier work ih =>
      obtain ⟨pool, op, does, rfl⟩ := work
      refine ih.act proper does ?_
      rwa [Store.Wrought.bindings earlier]

theorem Carries.move (carries : Carries site.store) (proper : ranges.Proper)
    (served : sync.allocators = .ofRanges ranges) (move : Move sync goal site later) : Carries later.store := by
  have sound : later.store.Sound := Moves.sound carries.sound proper served (.single move)
  cases move with
  | heard | refused | attachRefused | counted => exact ⟨sound, carries.single, carries.carried⟩
  | drawn owner =>
      have drew : (Allocators.ofRanges ranges).Does (fun _ => True) .l3Segment
          ⟨.free, none, ranges.l3, .allocate owner⟩ := .l3 .free _
      have drawn := carries.act proper drew fun _ _ _ => trivial
      rw [served]
      exact drawn
  | bound project vlan vni state known reported absent =>
      refine ⟨sound, carries.single, fun row member named => ?_⟩
      rcases (Bindings.mem_add_of_absent absent).mp member with rfl | member
      · exact absurd rfl named
      · exact carries.carried row member named
  | unbound =>
      exact ⟨sound, carries.single, fun row member named =>
        carries.carried row (List.mem_of_mem_filter member) named⟩
  | attached gateway state held present aimed other =>
      refine ⟨sound, carries.single, fun row member named => ?_⟩
      rcases Bindings.mem_route member with member | ⟨router, segment⟩
      · exact carries.carried row member named
      · -- The row takes over the segment that the router was just seen to own.
        rw [served] at held
        obtain ⟨own, listed, has, owned⟩ := held
        rw [router, segment]
        exact ⟨own, listed, Prod.ext rfl (PoolRow.hasId_iff.mp has).2, owned⟩
  | detached =>
      refine ⟨sound, carries.single, fun row member named => ?_⟩
      rcases Bindings.mem_route member with member | ⟨unrouted, _⟩
      · exact carries.carried row member named
      · exact absurd unrouted named

theorem Carries.moves (carries : Carries site.store) (proper : ranges.Proper)
    (served : sync.allocators = .ofRanges ranges) (moves : Moves sync goal site later) : Carries later.store := by
  induction moves with
  | refl => exact carries
  | tail _ move ih => exact ih.move proper served move

theorem Carries.after {event : Event} (carries : Carries site.store) (alone : sync.outside.Alone)
    (proper : ranges.Proper) (served : sync.allocators = .ofRanges ranges)
    (spares : event.Spares fun router => ∃ row ∈ site.store.bindings.rows, row.router = router) :
    Carries (sync.after event site).store := by
  cases onLeaves : event.isOnLeaves with
  | true => exact carries.moves proper served (moves_after alone carries.sound.settled onLeaves)
  | false =>
      have works : Task.Works (sync.allocators.Acts _) (sync.handle event) := works_handle onLeaves spares
      rw [served] at works
      exact carries.wrought proper (fun row member _ => ⟨row, member, rfl⟩) (works site)

theorem carries_start (proper : ranges.Proper) (served : sync.allocators = .ofRanges ranges)
    (empty : site.store = {}) : Carries (sync.start.run site).2.store := by
  have works : Task.Works (sync.allocators.Acts fun _ => False) sync.start := works_start fun _ => id
  rw [served] at works
  refine Carries.wrought ?_ proper ?_ (works site)
  · rw [empty]
    exact ⟨Store.sound_empty, (fun a member => by cases member), fun row member => by cases member⟩
  · rw [empty]
    exact fun row member => by cases member

theorem carries_reaches {start : Site ω} (alone : sync.outside.Alone) (proper : ranges.Proper)
    (served : sync.allocators = .ofRanges ranges) (carries : Carries start.store)
    (reached : Reaches sync (fun event site =>
      event.Spares fun router => ∃ row ∈ site.store.bindings.rows, row.router = router) start site) :
    Carries site.store := by
  induction reached with
  | start => exact carries
  | step _ spares ih => exact ih.after alone proper served spares

/-- Between events, each row attached to a router carries the one segment of layer 3 that the router
owns, so that rows attached to different routers carry different ones. -/
theorem routed_rows_carry_own_segment {configuration : Configuration} {outside : Outside ω} {state : ω}
    (checked : configuration.check = .ok ranges) (alone : outside.Alone)
    (reached : Reaches (ofConfiguration configuration ranges outside)
      (fun event site => event.Spares fun router => ∃ row ∈ site.store.bindings.rows, row.router = router)
      ((ofConfiguration configuration ranges outside).start.run ⟨{}, [], state⟩).2 site) :
    (∀ row ∈ site.store.bindings.rows, row.router ≠ "" → ∃ segment : SegmentId, row.l3 = segment.val ∧
      ((SegmentPool.find ⟨.l3Segment, ranges.l3⟩ row.router).run site.store).1 = .ok (some segment) ∧
      ∀ held ∈ site.store.l3, held.owner = row.router → held.id = row.l3) ∧
    ∀ a ∈ site.store.bindings.rows, ∀ b ∈ site.store.bindings.rows, a.router ≠ "" → b.router ≠ "" →
      a.router ≠ b.router → a.l3 ≠ b.l3 := by
  have proper := Configuration.proper_of_check checked
  have carries : Carries site.store := carries_reaches alone proper rfl (carries_start proper rfl rfl) reached
  refine ⟨fun row member named => ?_, fun a aMember b bMember aNamed bNamed differ same => ?_⟩
  · obtain ⟨own, listed, key, owned⟩ := carries.carried row member named
    have only : ∀ held ∈ site.store.l3, held.owner = row.router → held = own := fun held other also =>
      carries.single held other own listed rfl (also.trans owned.symm) (also ▸ named)
    have id : own.id = row.l3 := congrArg Prod.snd key
    have pool := carries.sound.pools .l3Segment
    obtain ⟨first, known, its, segment, same, found, _⟩ :=
      @SegmentPool.run_of_held ⟨.l3Segment, ranges.l3⟩ site.store row.router pool
        ⟨own, listed, PoolRow.isOwnedIn_iff.mpr ⟨rfl, owned⟩⟩
    rw [only first known its, id] at same
    refine ⟨segment, same, congrArg Prod.fst found, fun held other also => ?_⟩
    rw [only held other also, id]
  · have distinct := (carries.sound.pools .l3Segment).distinct
    have first := carries.carried a aMember aNamed
    have second := carries.carried b bMember bNamed
    rw [same] at first
    exact differ (first.unique distinct second)

theorem bound_port_carries_own_segment :
    let interface : RouterInterface := ⟨"router", "inner", "net", "tenant"⟩
    let sync : Synchronizer Unit :=
      ofConfiguration .bordered .bordered (.small ⟨"inner", "net", "10.1.0.0/24", none⟩ (some interface))
    let port : Port := ⟨"port", "net", "tenant", "compute:x", "host", .active⟩
    let segments : PortSegments := ⟨⟨7, by decide, by decide⟩, ⟨5, by decide, by decide⟩, "blue"⟩
    let bound := sync.after (.portBound port segments) (sync.start.run ⟨{}, [], ()⟩).2
    ∃ row ∈ bound.store.bindings.rows, row.router = "router" ∧ ∃ segment : SegmentId, row.l3 = segment.val ∧
      ((SegmentPool.find ⟨.l3Segment, PoolRanges.bordered.l3⟩ "router").run bound.store).1 = .ok (some segment) := by
  intro interface sync port segments bound
  have reached : Reaches sync (fun event site =>
      event.Spares fun router => ∃ row ∈ site.store.bindings.rows, row.router = router)
      (sync.start.run ⟨{}, [], ()⟩).2 bound := .step .start trivial
  obtain ⟨carried, _⟩ := routed_rows_carry_own_segment Configuration.check_bordered Outside.alone_small reached
  have attached : ∃ row ∈ bound.store.bindings.rows, row.router = "router" := by
    rw [show bound = sync.after (.portBound port segments) ⟨.bordered, [], ()⟩ by
      rw [← @run_start_bordered ⟨"inner", "net", "10.1.0.0/24", none⟩ (some interface)]]
    decide +kernel
  obtain ⟨row, member, routed⟩ := attached
  obtain ⟨segment, same, found, _⟩ := carried row member (by rw [routed]; decide)
  rw [routed] at found
  exact ⟨row, member, routed, segment, same, found⟩

end Synchronizer
end OverlayFabric
