import OverlayFabric.Cloud.Error
import OverlayFabric.Fabric.Error
import OverlayFabric.Store.Error
import OverlayFabric.Text.Quoted

namespace OverlayFabric

inductive SyncError where
  | configuration (field reason : String)
  | exhausted (pool scope : String)
  | conflict (pool reason : String)
  | switchNotFound (switch : String)
  | physnetNotConfigured (host : String) (switches : List String)
  | noDynamicSegment (network physnet : String)
  | connectionFailed (url : String) (attempts : Nat) (reason : String)
  | subnetLimit (network : String)
  | invalidSegment (reason : String)
  | fabric (error : FabricError)
  | cloud (error : CloudError)
  | store (error : StoreError)
  deriving DecidableEq, Repr

namespace SyncError

def ofStore : StoreError → SyncError
  | .exhausted pool scope => .exhausted pool scope
  | .conflict pool reason => .conflict pool reason
  | error => .store error

def ofFabric : FabricError → SyncError
  | .switchNotFound switch => .switchNotFound switch
  | .connectionFailed url attempts reason => .connectionFailed url attempts reason
  | error => .fabric error

def message : SyncError → String
  | .configuration field reason => s!"Invalid configuration for {field}: {reason}"
  | .exhausted pool scope => s!"No free id left in pool {pool} ({scope})"
  | .conflict pool reason => s!"Allocation conflict in pool {pool}: {reason}"
  | .switchNotFound switch => s!"Switch {switch} is not registered on the fabric controller"
  | .physnetNotConfigured host switches =>
      s!"No physical network configured for host {host} (connected switches: " ++
        Text.quotedList switches ++ ")"
  | .noDynamicSegment network physnet =>
      s!"No dynamic VLAN segment allocated for network {network} on physnet {physnet}"
  | .connectionFailed url attempts reason =>
      s!"Fabric controller unreachable at {url} after {attempts} attempts: {reason}"
  | .subnetLimit network => s!"Network {network} already has a subnet"
  | .invalidSegment reason => s!"Invalid segment: {reason}"
  | .fabric error => error.message
  | .cloud error => error.message
  | .store error => error.message

def isRetryable : SyncError → Bool
  | .conflict .. => true
  | .connectionFailed .. => true
  | .store error => error.isRetryable
  | _ => false

end SyncError
end OverlayFabric
