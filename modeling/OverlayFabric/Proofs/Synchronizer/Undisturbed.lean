import OverlayFabric.Proofs.Store.Allocator
import OverlayFabric.Proofs.Synchronizer.Teardown

namespace OverlayFabric

namespace Pool

variable {pool : Pool} {rows : List PoolRow} {scope : Option String} {ranges : RangeSet} {owner : String} {lock : Lock}

theorem allocateWithin_free_of_ok {attempts : Nat} {answer : Nat × List PoolRow}
    (done : pool.allocateWithin lock scope ranges owner attempts rows = .ok answer) :
    pool.allocateWithin .free scope ranges owner attempts rows = .ok answer := by
  cases lock with
  | free => exact done
  | held =>
      -- With the lock held elsewhere only what the owner has already is there to be given.
      cases attempts with
      | zero => exact done
      | succ attempts =>
          obtain ⟨found, search, done⟩ := Result.bind_eq_ok.mp done
          refine Result.bind_eq_ok.mpr ⟨found, search, ?_⟩
          cases found with
          | some held => exact done
          | none =>
              obtain ⟨candidate, _, done⟩ := Result.bind_eq_ok.mp done
              cases candidate <;> cases done

end Pool

variable {ω α β : Type} {outside : Outside ω}

theorem StoreM.onPool_bind_of_ok {pool : Pool} {f g : List PoolRow → Except StoreError (α × List PoolRow)}
    {next : α → StoreM β} {store after : Store} {value : β}
    (same : ∀ rows answer, f rows = .ok answer → g rows = .ok answer)
    (done : (StoreM.onPool pool f >>= next).run store = (.ok value, after)) :
    (StoreM.onPool pool g >>= next).run store = (.ok value, after) := by
  rw [StoreM.run_bind, StoreM.run_onPool] at done ⊢
  cases given : f (store.rows pool) with
  | error e =>
      rw [given] at done
      cases done
  | ok answer =>
      rw [given] at done
      rwa [same _ _ given]

theorem SegmentPool.allocate_free_of_ok {segments : SegmentPool} {lock : Lock} {owner : String} {store after : Store}
    {segment : SegmentId} (done : (segments.allocate lock owner).run store = (.ok segment, after)) :
    (segments.allocate .free owner).run store = (.ok segment, after) :=
  StoreM.onPool_bind_of_ok (fun _ _ => Pool.allocateWithin_free_of_ok) done

theorem BorderPool.allocate_free_of_ok {border : BorderPool} {lock : Lock} {switch owner : String} {store after : Store}
    {vlan : VlanId} (done : (border.allocate lock switch owner).run store = (.ok vlan, after)) :
    (border.allocate .free switch owner).run store = (.ok vlan, after) :=
  StoreM.onPool_bind_of_ok (fun _ _ => Pool.allocateWithin_free_of_ok) done

def Outside.undisturbed (outside : Outside ω) : Outside ω := { outside with lock := fun _ => .free }

namespace Task

/-- Where the first task succeeds, the second comes to the same. -/
def Repeats (task again : Task ω α) : Prop :=
  ∀ site value after, task.run site = (.ok value, after) → again.run site = (.ok value, after)

variable {task again : Task ω α} {next next' : α → Task ω β}

theorem repeats_refl : Repeats task task := fun _ _ _ ran => ran

theorem Repeats.bind (first : Repeats task again) (onward : ∀ value, Repeats (next value) (next' value)) :
    Repeats (task >>= next) (again >>= next') := by
  intro site value after ran
  rw [run_bind] at ran
  rcases mid : task.run site with ⟨e | given, left⟩
  · rw [mid] at ran
    cases ran
  · rw [mid] at ran
    rw [run_bind_of_run (first _ _ _ mid)]
    exact onward given _ _ _ ran

theorem repeats_send {call : Call} : Repeats (send outside call) (send outside.undisturbed call) := repeats_refl

theorem repeats_store {action : Lock → StoreM α}
    (free : ∀ lock store value after, (action lock).run store = (.ok value, after) →
      (action .free).run store = (.ok value, after)) :
    Repeats (Task.store outside action) (Task.store outside.undisturbed action) := by
  intro site value after ran
  unfold Task.run Task.store at ran ⊢
  rcases done : (action (outside.lock site.outside)).run site.store with ⟨e | given, left⟩
  · rw [done] at ran
    cases ran
  · rw [done] at ran
    simp only [Outside.undisturbed, free _ _ _ _ done]
    exact ran

theorem Repeats.attempt {next next' : Except SyncError α → Task ω β} (first : Repeats task again)
    (onward : ∀ value, Repeats (next (.ok value)) (next' (.ok value))) (fails : ∀ e site, Fails (next (.error e)) site) :
    Repeats (Task.attempt task >>= next) (Task.attempt again >>= next') := by
  intro site value after ran
  rw [run_bind_of_run run_attempt] at ran
  rcases mid : task.run site with ⟨e | given, left⟩
  · rw [mid] at ran
    obtain ⟨_, _, failed⟩ := (fails e left).run
    cases failed.symm.trans ran
  · rw [mid] at ran
    rw [run_bind_of_run run_attempt, first _ _ _ mid]
    exact onward given _ _ _ ran

end Task

namespace Synchronizer

variable {ω : Type} {sync : Synchronizer ω} {site after : Site ω} {router : Router} {gateway : ExternalGateway}
  {plan : GatewayPlan} {l2 l3 : SegmentId}

theorem planGateway_undisturbed :
    (sync.facing sync.outside.undisturbed).planGateway gateway = sync.planGateway gateway := rfl

theorem repeats_addLeg {border : String × List String} : Task.Repeats (sync.addLeg router gateway plan l2 l3 border)
    ((sync.facing sync.outside.undisturbed).addLeg router gateway plan l2 l3 border) := by
  unfold addLeg
  refine Task.Repeats.bind (Task.repeats_store fun _ _ _ _ => BorderPool.allocate_free_of_ok) fun vlan => ?_
  exact Task.repeats_send.bind fun _ => Task.repeats_send

theorem repeats_addLegs {borders : List (String × List String)} : Task.Repeats
    (sync.addLegs router gateway plan l2 l3 borders)
    ((sync.facing sync.outside.undisturbed).addLegs router gateway plan l2 l3 borders) := by
  induction borders with
  | nil => exact Task.repeats_refl
  | cons border rest ih =>
      unfold addLegs
      refine Task.Repeats.attempt repeats_addLeg (fun _ => ih) fun e site => ?_
      exact Task.fails_of_next fun _ _ => ⟨e, rfl⟩

theorem repeats_addGateway : Task.Repeats (sync.addGateway router gateway)
    ((sync.facing sync.outside.undisturbed).addGateway router gateway) := by
  unfold addGateway
  rw [planGateway_undisturbed]
  refine Task.repeats_refl.bind fun plan => ?_
  cases plan with
  | none => exact Task.repeats_refl
  | some plan =>
      by_cases nowhere : (sync.topology.bordersOf plan.physnet).isEmpty = true
      · simp only [facing, nowhere, if_true]
        exact Task.repeats_refl
      · simp only [facing, nowhere, Bool.false_eq_true, if_false]
        refine Task.Repeats.bind (Task.repeats_store fun _ _ _ _ => SegmentPool.allocate_free_of_ok) fun l3 => ?_
        refine Task.Repeats.bind (Task.repeats_store fun _ _ _ _ => SegmentPool.allocate_free_of_ok) fun l2 => ?_
        exact repeats_addLegs

end Synchronizer
end OverlayFabric
