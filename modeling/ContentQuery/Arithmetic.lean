/-!
# Arithmetic

Powers of two and ten, totals, and the integers that fit 64 bits.
-/

set_option autoImplicit false

namespace ContentQuery

/-! ## Powers -/

def powerOfTwo (n : Nat) : Nat := Nat.pow 2 n

def powerOfTen (n : Nat) : Nat := Nat.pow 10 n

@[simp] theorem powerOfTwo_zero : powerOfTwo 0 = 1 := rfl

theorem powerOfTwo_succ (n : Nat) : powerOfTwo (n + 1) = powerOfTwo n * 2 := rfl

@[simp] theorem powerOfTen_zero : powerOfTen 0 = 1 := rfl

theorem powerOfTen_succ (n : Nat) : powerOfTen (n + 1) = powerOfTen n * 10 := rfl

/-! ## Totals -/

/-- The sum of a list of numbers. -/
def total : List Nat → Nat
  | [] => 0
  | n :: ns => n + total ns

@[simp] theorem total_nil : total [] = 0 := rfl

@[simp] theorem total_cons (n : Nat) (ns : List Nat) : total (n :: ns) = n + total ns := rfl

@[simp] theorem total_append (ms ns : List Nat) : total (ms ++ ns) = total ms + total ns := by
  induction ms with
  | nil => simp
  | cons m ms ih => simp [ih, Nat.add_assoc]

/-! ## 64 bits -/

/-- The largest natural number of 64 bits. -/
def maxUInt64 : Nat := 18446744073709551615

/-- The signed integer of 64 bits with this value. -/
def int64? (i : Int) : Option Int64 :=
  if -9223372036854775808 ≤ i ∧ i ≤ 9223372036854775807 then some (Int64.ofInt i) else none

/-- The natural number of 64 bits with this value. -/
def uint64? (n : Nat) : Option UInt64 :=
  if n ≤ maxUInt64 then some (UInt64.ofNat n) else none

end ContentQuery
