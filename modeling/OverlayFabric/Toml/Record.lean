import OverlayFabric.Json.Record

/-!
Records in TOML. They may be given by place and go on after their last field. Numbers of any size can be
written, but only some can be read, even over: whole ones of up to 128 bits with or without a sign, and
others that round to a double.
-/

namespace OverlayFabric.Toml
open Number

def leastInteger : Int := -170141183460469231731687303715884105728

def greatestInteger : Int := 340282366920938463463374607431768211455

mutual

def canRead : Json → Bool
  | .int value => leastInteger ≤ value && value ≤ greatestInteger
  | .real _ value => (Double.nearest? value).isSome
  | .arr items => canReadAll items
  | .obj fields => canReadFields fields
  | _ => true

def canReadAll : List Json → Bool
  | [] => true
  | json :: rest => canRead json && canReadAll rest

def canReadFields : List (String × Json) → Bool
  | [] => true
  | (_, json) :: rest => canRead json && canReadFields rest

end

def recordRules : RecordRules := ⟨true, canRead⟩

end OverlayFabric.Toml
