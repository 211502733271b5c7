import BlockHeap.Size

/-!
# Ranges of numbers

The numbers `start`, `start + step`, … below `stop`, as steps of a session name blocks by them. A step lists its numbers
before it uses the first one; `Range.listable` is the fault of a list that no memory could hold.
-/

namespace BlockHeap.Session

/-- Numbers at a fixed distance from one another. -/
structure Range where
  start : Nat
  /-- All numbers are below this one. -/
  stop : Nat
  step : Nat
  deriving DecidableEq, Repr

namespace Range

/-- How many numbers there are. -/
def count (r : Range) : Nat := Size.ceilDiv (r.stop - r.start) r.step

/-- Number `i` of a range. -/
def item (r : Range) (i : Nat) : Nat := r.start + i * r.step

/-- The number of bytes that a listed number takes. -/
def itemBytes : Nat := 8

/-- Half of all addresses at most can belong to one list. -/
def listable (r : Range) : Except Fault Unit :=
  if r.count * itemBytes < Size.limit / 2 then .ok () else .error .listTooLong

end Range

end BlockHeap.Session
