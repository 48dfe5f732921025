import OverlayFabric.Configuration.Basic
import OverlayFabric.Number.Radix

namespace OverlayFabric

def isTokenChar (c : Char) : Bool :=
  c.isAlphanum || "!#$%&'*+-.^_|~".toList.contains c || c.toNat == 96

structure HttpMethod where
  name : List Char
  isToken : name ≠ [] ∧ name.all isTokenChar = true
  deriving DecidableEq, Repr

namespace HttpMethod

def ofName? (name : List Char) : Option HttpMethod :=
  if h : name ≠ [] ∧ name.all isTokenChar = true then some ⟨name, h⟩ else none

def get : HttpMethod := ⟨['G', 'E', 'T'], by decide⟩

def put : HttpMethod := ⟨['P', 'U', 'T'], by decide⟩

def delete : HttpMethod := ⟨['D', 'E', 'L', 'E', 'T', 'E'], by decide⟩

def isIdempotent (method : HttpMethod) : Bool := [get, put, delete].contains method

end HttpMethod

structure RetryPolicy where
  retries : Nat := 3
  intervalMs : Nat := 1000
  deriving DecidableEq, Repr

namespace RetryPolicy

def never : RetryPolicy := ⟨0, 0⟩

def ofSettings (settings : ControllerSettings) : RetryPolicy :=
  ⟨settings.retries, settings.retryIntervalMs⟩

def attempts (policy : RetryPolicy) (method : HttpMethod) : Nat :=
  if method.isIdempotent then Nat.min (policy.retries + 1) Number.wordLimit else 1

theorem attempts_pos (policy : RetryPolicy) (method : HttpMethod) : 0 < policy.attempts method := by
  unfold attempts
  split
  · exact Nat.lt_min.mpr ⟨Nat.succ_pos _, by decide⟩
  · exact Nat.one_pos

end RetryPolicy
end OverlayFabric
