namespace OverlayFabric.Number

def digitChar (n : Nat) : Char :=
  if n < 10 then Char.ofNat (48 + n) else Char.ofNat (87 + n)

def digitValue? (radix : Nat) (c : Char) : Option Nat :=
  let n := c.toNat
  let value :=
    if 48 ≤ n && n ≤ 57 then n - 48
    else if 97 ≤ n && n ≤ 102 then n - 87
    else if 65 ≤ n && n ≤ 70 then n - 55
    else radix
  if value < radix then some value else none

def isDigitOf (radix : Nat) (c : Char) : Bool := (digitValue? radix c).isSome

def valueFrom (radix acc : Nat) : List Char → Option Nat
  | [] => some acc
  | c :: cs => (digitValue? radix c).bind fun d => valueFrom radix (acc * radix + d) cs

def valueOf (radix : Nat) (cs : List Char) : Option Nat :=
  if cs.isEmpty then none else valueFrom radix 0 cs

def numeral (radix n : Nat) : List Char :=
  if _h : radix < 2 ∨ n < radix then [digitChar n]
  else numeral radix (n / radix) ++ [digitChar (n % radix)]
termination_by n
decreasing_by exact Nat.div_lt_self (by omega) (by omega)

def decimal (n : Nat) : List Char := numeral 10 n

def readDecimal (limit : Nat) (cs : List Char) : Option Nat :=
  let body := match cs with
    | '+' :: rest => rest
    | _ => cs
  (valueOf 10 body).filter (· ≤ limit)

def wordLimit : Nat := 4294967295

theorem digitValue?_digitChar_ten {n : Nat} (h : n < 10) : digitValue? 10 (digitChar n) = some n := by
  have all : ∀ k < 10, digitValue? 10 (digitChar k) = some k := by decide
  exact all n h

theorem valueFrom_append (radix acc : Nat) (front back : List Char) :
    valueFrom radix acc (front ++ back) =
      (valueFrom radix acc front).bind fun value => valueFrom radix value back := by
  induction front generalizing acc with
  | nil => rfl
  | cons c cs ih =>
      simp only [List.cons_append, valueFrom]
      cases digitValue? radix c with
      | none => rfl
      | some d => exact ih _

theorem numeral_ne_nil (radix n : Nat) : numeral radix n ≠ [] := by
  unfold numeral
  split <;> simp

theorem valueFrom_decimal (n : Nat) : valueFrom 10 0 (decimal n) = some n := by
  unfold decimal
  fun_induction numeral 10 n with
  | case1 n h =>
      have small : n < 10 := by omega
      simp [valueFrom, digitValue?_digitChar_ten small]
  | case2 n h ih =>
      rw [valueFrom_append, ih]
      have small : n % 10 < 10 := Nat.mod_lt _ (by omega)
      simp only [Option.bind_some, valueFrom, digitValue?_digitChar_ten small, Option.some.injEq]
      omega

theorem valueOf_decimal (n : Nat) : valueOf 10 (decimal n) = some n := by
  have filled : (decimal n).isEmpty = false := by
    simpa [decimal, List.isEmpty_eq_false_iff] using numeral_ne_nil 10 n
  simp [valueOf, filled, valueFrom_decimal]

end OverlayFabric.Number
