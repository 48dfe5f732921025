namespace OverlayFabric

inductive StoreError where
  /-- The database refused a statement; `busy` when another writer holds it. -/
  | database (operation : String) (busy : Bool)
  | exhausted (pool scope : String)
  | conflict (pool reason : String)
  | corrupt (table reason : String)
  deriving DecidableEq, Repr

namespace StoreError

def exhaustedIn (pool : String) (scope : Option String) : StoreError :=
  .exhausted pool (scope.getD "global")

def message : StoreError → String
  | .database operation _ => s!"Database operation failed: {operation}"
  | .exhausted pool scope => s!"No free id left in pool {pool} ({scope})"
  | .conflict pool reason => s!"Allocation conflict in pool {pool}: {reason}"
  | .corrupt table reason => s!"Invalid value stored in {table}: {reason}"

def isRetryable : StoreError → Bool
  | .conflict .. => true
  | .database _ busy => busy
  | _ => false

end StoreError
end OverlayFabric
