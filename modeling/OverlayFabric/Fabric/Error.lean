namespace OverlayFabric

inductive FabricError where
  | switchNotFound (switch : String)
  | connectionFailed (url : String) (attempts : Nat) (reason : String)
  | refused (status : Nat) (url body : String)
  | undecodable (url reason : String)
  | invalidRequest (reason : String)
  deriving DecidableEq, Repr

namespace FabricError

def message : FabricError → String
  | .switchNotFound switch => s!"No fabric device registered for switch {switch}"
  | .connectionFailed url attempts reason =>
      s!"Fabric controller unreachable at {url} after {attempts} attempts: {reason}"
  | .refused status url body => s!"Fabric controller returned {status} for {url}: {body}"
  | .undecodable url reason => s!"Invalid fabric controller response from {url}: {reason}"
  | .invalidRequest reason => s!"Invalid fabric request: {reason}"

def isRetryable : FabricError → Bool
  | .connectionFailed .. => true
  | _ => false

end FabricError
end OverlayFabric
