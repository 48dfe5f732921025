import OverlayFabric.Cloud.Query
import OverlayFabric.Fabric.Request
import OverlayFabric.Store.Allocator
import OverlayFabric.Topology

/-!
Tasks of the synchronizer. A task asks the cloud, calls the fabric and works on the store; all that it
sees of the first two, and of other writers, is an `Outside`. A failed task keeps what it did so far,
and every call to the fabric is on record, also one that failed.
-/

namespace OverlayFabric

/-- The cloud, the fabric and the write lock, with a state of their own. -/
structure Outside (ω : Type) where
  ask : {α : Type} → Query α → ω → Except CloudError α × ω
  send : Call → ω → Except FabricError Unit × ω
  lock : ω → Lock

namespace Outside

def pair {κ φ : Type} (ask : {α : Type} → Query α → κ → Except CloudError α × κ)
    (send : Call → φ → Except FabricError Unit × φ) : Outside (κ × φ) where
  ask query state := let (answer, cloud) := ask query state.1; (answer, cloud, state.2)
  send call state := let (answer, fabric) := send call state.2; (answer, state.1, fabric)
  lock _ := .free

end Outside

structure Sent where
  call : Call
  accepted : Bool
  deriving DecidableEq, Repr

structure Site (ω : Type) where
  store : Store
  record : List Sent
  outside : ω

def Site.calls {ω : Type} (site : Site ω) : List Call := site.record.map Sent.call

def Site.took {ω : Type} (site : Site ω) (call : Call) (accepted : Bool) (outside : ω) : Site ω :=
  { site with record := site.record ++ [⟨call, accepted⟩], outside }

abbrev Task (ω α : Type) := ExceptT SyncError (StateM (Site ω)) α

namespace Task

variable {ω α : Type}

def run (task : Task ω α) (site : Site ω) : Except SyncError α × Site ω := task site

def ask (outside : Outside ω) (query : Query α) : Task ω α := fun site =>
  match outside.ask query site.outside with
  | (.ok answer, state) => (.ok answer, { site with outside := state })
  | (.error e, state) => (.error (.cloud e), { site with outside := state })

def send (outside : Outside ω) (call : Call) : Task ω Unit := fun site =>
  match outside.send call site.outside with
  | (.ok (), state) => (.ok (), site.took call true state)
  | (.error e, state) => (.error (.ofFabric e), site.took call false state)

def store (outside : Outside ω) (action : Lock → StoreM α) : Task ω α := fun site =>
  match (action (outside.lock site.outside)).run site.store with
  | (.ok value, store) => (.ok value, { site with store })
  | (.error e, store) => (.error (.ofStore e), { site with store })

def attempt (task : Task ω α) : Task ω (Except SyncError α) := fun site =>
  let (result, site) := task site
  (.ok result, site)

def ignore (task : Task ω α) : Task ω Unit := fun site => (.ok (), (task site).2)

/-- Runs every task and fails at the end with the first failure. -/
def forAll {β : Type} (task : β → Task ω Unit) : List β → Task ω Unit
  | [] => return
  | item :: rest => do
      match ← attempt (task item) with
      | .ok () => forAll task rest
      | .error e =>
          ignore (forAll task rest)
          throw e

end Task

structure Synchronizer (ω : Type) where
  outside : Outside ω
  topology : Topology
  allocators : Allocators
  allowedPhysnets : List String

end OverlayFabric
