import BlockHeap.Size

/-!
# Size classes

Requests are rounded up to one of `SizeClass.count` powers of two between `least` and `greatest` bytes (`fitting`).
Larger requests have no class, which the number `unclassed` stands for; they get a mapping of their own.
The classes are numbered in order of size (`index`, `ofIndex`).
-/

namespace BlockHeap.SizeClass

/-- The smallest class in bytes. -/
def least : Nat := 8

/-- The largest class in bytes. -/
def greatest : Nat := 4 * 1024 * 1024

/-- The number of classes. -/
def count : Nat := greatest.log2 - least.log2 + 1

/-- Stands in place of a class for requests that are too large for one. -/
def unclassed : Nat := 0

/-- The least class of at least `bytes` bytes, `unclassed` if there is none. -/
def fitting (bytes : Nat) : Nat :=
  if bytes ≤ least then least
  else if greatest < bytes then unclassed
  else 1 <<< ((bytes - 1).log2 + 1)

/-- The number of a class: the smallest has number 0. -/
def index (size : Nat) : Except Fault Nat :=
  if !Size.isPowerOfTwo size then .error .classNotPowerOfTwo
  else if size < least ∨ greatest < size then .error .classOutOfRange
  else .ok (size.log2 - least.log2)

/-- The class of a given number. -/
def ofIndex (i : Nat) : Except Fault Nat :=
  if i < count then .ok (least <<< i) else .error .classIndexOutOfRange

end BlockHeap.SizeClass
