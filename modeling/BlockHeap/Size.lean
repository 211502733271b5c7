import BlockHeap.Fault

/-!
# Sizes and addresses

Byte counts, block counts and addresses are natural numbers below `Size.limit`, what one 64-bit word can hold.
Sums and products that may leave this range are computed by `add?` and `mul?`, which answer `none` when they do; the
distance between two addresses goes round at the end of the range (`gap`), so that an address below its reference point
is very far behind it.
-/

namespace BlockHeap.Size

/-- One more than the largest size. -/
def limit : Nat := UInt64.size

/-- The sum of two sizes, if it is a size. -/
def add? (a b : Nat) : Option Nat :=
  if a + b < limit then some (a + b) else none

/-- The product of two sizes, if it is a size. -/
def mul? (a b : Nat) : Option Nat :=
  if a * b < limit then some (a * b) else none

/-- The distance from address `b` up to address `a`, going round at the end of the range. -/
def gap (a b : Nat) : Nat :=
  if b ≤ a then a - b else limit - (b - a)

/-- The address `d` bytes behind `a` (before it when `d` is negative), going round at both ends of the range. -/
def shift (a : Nat) (d : Int) : Nat :=
  if d = 0 then a else (((a : Int) + d) % (limit : Int)).toNat

/-- The number of `unit`s that cover `n`. -/
def ceilDiv (n unit : Nat) : Nat :=
  n / unit + (if n % unit = 0 then 0 else 1)

/-- The number of `unit`s that cover `n`, where `unit` may be no divisor at all. -/
def divUp (n unit : Nat) : Except Fault Nat :=
  if unit = 0 then .error .divisionByZero else .ok (ceilDiv n unit)

/-- The least multiple of `unit` that is at least `n`. -/
def roundUp (n unit : Nat) : Nat :=
  ceilDiv n unit * unit

/-- Rounding up gives a multiple. -/
theorem dvd_roundUp (n unit : Nat) : unit ∣ roundUp n unit := Nat.dvd_mul_left unit _

/-- Rounding up does not go down. -/
theorem le_roundUp {unit : Nat} (h : 0 < unit) (n : Nat) : n ≤ roundUp n unit := by
  have hd := Nat.div_add_mod n unit
  have hm := Nat.mod_lt n h
  unfold roundUp ceilDiv
  split
  · rename_i h0
    rw [Nat.add_zero, Nat.mul_comm]
    omega
  · rw [Nat.add_mul, Nat.mul_comm, Nat.one_mul]
    omega

/-- The powers of two, decided by the exponent. -/
def isPowerOfTwo (n : Nat) : Bool :=
  n ≠ 0 && 1 <<< n.log2 == n

end BlockHeap.Size
