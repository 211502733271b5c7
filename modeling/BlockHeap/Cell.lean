/-!
# Memory cells

A cell holds one 64-bit number and is read and changed by single operations, each of which answers the number that was
there before. Sums and differences go round at both ends of the range. Cells of one thread and cells shared by many
give the same answers to operations that follow one another, so there is one kind of cell here.
-/

namespace BlockHeap.Cell

/-- An operation on a cell. -/
inductive Op where
  | load
  | store (value : UInt64)
  | fetchAdd (value : UInt64)
  | fetchSub (value : UInt64)
  | fetchOr (value : UInt64)
  | fetchAnd (value : UInt64)
  /-- Puts `new` in the place of `expected`, and leaves any other number alone. -/
  | compareExchange (expected new : UInt64)
  deriving DecidableEq, Repr

/-- What an operation answers. -/
inductive Reply where
  | done
  | old (value : UInt64)
  /-- The number before an exchange that took place. -/
  | exchanged (value : UInt64)
  /-- The number that kept an exchange from taking place. -/
  | kept (value : UInt64)
  deriving DecidableEq, Repr

/-- One operation on a cell that holds `v`: the answer, and what the cell holds afterwards. -/
def step (v : UInt64) : Op → Reply × UInt64
  | .load => (.old v, v)
  | .store w => (.done, w)
  | .fetchAdd w => (.old v, v + w)
  | .fetchSub w => (.old v, v - w)
  | .fetchOr w => (.old v, v ||| w)
  | .fetchAnd w => (.old v, v &&& w)
  | .compareExchange e w => if v = e then (.exchanged v, w) else (.kept v, v)

/-- A run of operations: the answer to each, with what the cell holds after it. -/
def run (v : UInt64) : List Op → List (Reply × UInt64)
  | [] => []
  | op :: ops =>
    let r := step v op
    r :: run r.2 ops

end BlockHeap.Cell
