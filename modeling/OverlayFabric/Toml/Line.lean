namespace OverlayFabric.Toml

def isSpace (c : Char) : Bool := c = ' ' || c = '\t'

def isControl (c : Char) : Bool := (c.toNat < 32 && c != '\t') || c.toNat == 127

def skipSpace (cs : List Char) : List Char := cs.dropWhile isSpace

def lineEnd? : List Char → Option (List Char)
  | '\n' :: rest => some rest
  | '\r' :: '\n' :: rest => some rest
  | _ => none

theorem length_lt_of_lineEnd? {cs rest : List Char} (h : lineEnd? cs = some rest) :
    rest.length < cs.length := by
  unfold lineEnd? at h
  split at h
  · cases h; simp
  · cases h; exact Nat.lt_add_of_pos_right (by decide : 0 < 2)
  · cases h

def skipComment (cs : List Char) : List Char :=
  match cs with
  | '#' :: rest => rest.dropWhile (!isControl ·)
  | _ => cs

def endLine? (cs : List Char) : Option (List Char) :=
  match skipComment (skipSpace cs) with
  | [] => some []
  | rest => lineEnd? rest

theorem length_skipComment_le (cs : List Char) : (skipComment cs).length ≤ cs.length := by
  unfold skipComment
  split
  · next rest => exact Nat.le_succ_of_le (List.dropWhile_sublist _).length_le
  · exact Nat.le_refl _

def skipLines (cs : List Char) : List Char :=
  match found : lineEnd? (skipComment (skipSpace cs)) with
  | some next =>
      have := length_lt_of_lineEnd? found
      skipLines next
  | none => skipComment (skipSpace cs)
termination_by cs.length
decreasing_by
  have comment := length_skipComment_le (skipSpace cs)
  have space : (skipSpace cs).length ≤ cs.length := (List.dropWhile_sublist _).length_le
  omega

def skipBlankLines (cs : List Char) : List Char :=
  match found : lineEnd? (skipSpace cs) with
  | some next =>
      have := length_lt_of_lineEnd? found
      skipBlankLines next
  | none => skipSpace cs
termination_by cs.length
decreasing_by
  have space : (skipSpace cs).length ≤ cs.length := (List.dropWhile_sublist _).length_le
  omega

end OverlayFabric.Toml
