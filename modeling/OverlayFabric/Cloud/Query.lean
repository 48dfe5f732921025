import OverlayFabric.Cloud.Error
import OverlayFabric.Cloud.Network
import OverlayFabric.Cloud.Port

namespace OverlayFabric

inductive Query : Type → Type where
  | ports (hosts : List String) (subnet : String) : Query (List Port)
  | subnet (id : String) : Query (Option Subnet)
  | subnetsOf (network : String) : Query (List Subnet)
  | segmentOf (network : String) : Query (Option NetworkSegment)
  | router (id : String) : Query (Option Router)
  | routerIds : Query (List String)
  | networkIds : Query (List String)
  | interfaceOn (subnet : String) : Query (Option RouterInterface)
  /-- The VLAN of a network on a physical network, allocated if there is none yet. -/
  | dynamicSegment (network physnet : String) : Query (Option DynamicSegment)

end OverlayFabric
