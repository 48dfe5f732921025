import OverlayFabric.Synchronizer.Gateway
import OverlayFabric.Synchronizer.Interface
import OverlayFabric.Synchronizer.Segment
import OverlayFabric.Synchronizer.Startup

namespace OverlayFabric

inductive Event where
  | portUpdated (event : PortEvent)
  | portDeleted (event : PortEvent)
  | portBound (port : Port) (segments : PortSegments)
  | portUnbound (port : Port) (segments : PortSegments)
  | subnetProposed (subnet : Subnet)
  | portOffered (port : Port) (segments : List NetworkSegment)
  | routerCreated (router : Router)
  | routerUpdated (previous router : Router)
  | routerDeleted (router : Router)
  | gatewayAdded (router : Router) (gateway : ExternalGateway)
  | gatewayRemoved (router : Router) (gateway : ExternalGateway)
  | interfaceAdded (interface : RouterInterface)
  | interfaceRemoved (interface : RouterInterface)
  | tenantNetwork (network : String)
  | providerNetwork (network : String) (requested : Option UInt32)
  | segmentReleased (network : String) (segment : SegmentId)
  | externalProposed (segment : NetworkSegment)
  | syncWanted
  | statsWanted
  | reapWanted
  deriving DecidableEq, Repr

namespace Synchronizer

variable {ω : Type}

def silently (task : Task ω Unit) : Task ω Json := (fun _ => Json.null) <$> task

def handle (sync : Synchronizer ω) : Event → Task ω Json
  | .portUpdated event => silently (sync.updatePort event)
  | .portDeleted event => silently (sync.deletePort event)
  | .portBound port segments => silently (sync.portBound port segments)
  | .portUnbound port segments => silently (sync.portUnbound port segments)
  | .subnetProposed subnet => silently (sync.validateSubnet subnet)
  | .portOffered port segments =>
      .option DynamicSegment.encode <$> sync.bindPort port segments
  | .routerCreated router => SegmentId.encode <$> sync.createRouter router
  | .routerUpdated previous router => silently (sync.updateRouter previous router)
  | .routerDeleted router => silently (sync.deleteRouter router)
  | .gatewayAdded router gateway => silently (sync.addGateway router gateway)
  | .gatewayRemoved router gateway => silently (sync.removeGateway router gateway)
  | .interfaceAdded interface => silently (sync.addInterface interface)
  | .interfaceRemoved interface => silently (sync.removeInterface interface)
  | .tenantNetwork network => SegmentId.encode <$> sync.allocateTenant network
  | .providerNetwork network requested =>
      SegmentId.encode <$> sync.reserveProvider network requested
  | .segmentReleased network segment => .bool <$> sync.releaseSegment network segment
  | .externalProposed segment => silently (sync.validateExternal segment)
  | .syncWanted => SyncSummary.encode <$> sync.syncAll
  | .statsWanted => StatsReport.encode <$> sync.stats
  | .reapWanted => ReapReport.encode <$> sync.reap

end Synchronizer
end OverlayFabric
