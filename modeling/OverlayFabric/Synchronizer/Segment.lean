import OverlayFabric.Range.Reader
import OverlayFabric.Synchronizer.Task

namespace OverlayFabric.Synchronizer

variable {ω : Type}

def allocateTenant (sync : Synchronizer ω) (network : String) : Task ω SegmentId :=
  .store sync.outside fun lock => sync.allocators.l2.allocate lock network

def reserveProvider (sync : Synchronizer ω) (network : String) (requested : Option UInt32) :
    Task ω SegmentId :=
  match requested with
  | none => sync.allocateTenant network
  | some requested => do
      let id := requested.toNat
      let bounds := PoolBounds.l2Segment
      if id < bounds.min ∨ bounds.max < id then
        throw (.invalidSegment s!"segmentation id {id} outside {bounds.min}:{bounds.max}")
      match SegmentId.ofNat? id with
      | none => throw (.invalidSegment (Malformed.segment id).message)
      | some segment =>
          .store sync.outside fun lock => sync.allocators.l2.reserve lock segment network
          return segment

/-- Frees the segment whoever holds it; false when it has no row. -/
def releaseSegment (sync : Synchronizer ω) (_network : String) (segment : SegmentId) : Task ω Bool :=
  .store sync.outside fun lock => sync.allocators.l2.releaseId lock segment

def checkExternal (allowed : List String) (segment : NetworkSegment) : Except SyncError Unit :=
  if segment.kind ≠ .externalNet then
    .error (.invalidSegment s!"{segment.kind.networkType} is not an external network segment")
  else match segment.physicalNetwork.filter (· ≠ "") with
    | none => .error (.invalidSegment "physical_network required for external network")
    | some physnet =>
        if !allowed.isEmpty && !allowed.contains physnet then
          .error (.invalidSegment s!"physical_network '{physnet}' unknown for external network")
        else if segment.segmentationId.isSome then
          .error (.invalidSegment "segmentation_id prohibited for external network")
        else .ok ()

def validateExternal (sync : Synchronizer ω) (segment : NetworkSegment) : Task ω Unit :=
  fun site => (checkExternal sync.allowedPhysnets segment, site)

end OverlayFabric.Synchronizer
