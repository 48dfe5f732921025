namespace OverlayFabric

inductive Malformed where
  | range (entry reason : String)
  | vlan (id : Nat)
  | segment (id : Nat)
  | gateway (text : String)
  deriving DecidableEq, Repr

def Malformed.message : Malformed → String
  | .range entry reason => s!"invalid range '{entry}': {reason}"
  | .vlan id => s!"invalid VLAN ID: {id} (must be 1-4094)"
  | .segment id => s!"invalid segment ID: {id} (must be 1-16777215)"
  | .gateway text => s!"invalid gateway CIDR: {text}"

end OverlayFabric
