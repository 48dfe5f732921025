namespace OverlayFabric

inductive CloudError where
  | notFound (object id : String)
  | unavailable (reason : String)
  deriving DecidableEq, Repr

def CloudError.message : CloudError → String
  | .notFound object id => s!"{object} {id} not found"
  | .unavailable reason => s!"Orchestrator unavailable: {reason}"

end OverlayFabric
