/-!
# Runs of blocks

A list of blocks is told as runs: so many blocks of a slot, from a first number on. Lists with many runs are cut down
to their first and last ones, the number of runs and a check over all of them.
-/

namespace BlockHeap

/-- Blocks of one slot with numbers that follow one another. -/
structure Run where
  slot : Nat
  first : Nat
  count : Nat
  deriving DecidableEq, Repr

namespace Run

/-- Whether a block follows the last block of a run. -/
def meets (r : Run) (slot index : Nat) : Bool := r.slot == slot && r.first + r.count == index

/-- The blocks of a run. -/
def blocks (r : Run) : List (Nat × Nat) := (List.range r.count).map fun i => (r.slot, r.first + i)

end Run

/-- The runs of a list of blocks that is still being told: the last run may go on. -/
structure Runs where
  /-- The runs that have ended. -/
  ended : Array Run
  /-- The run that may go on. -/
  last : Option Run

namespace Runs

/-- No blocks. -/
def empty : Runs := ⟨#[], none⟩

/-- One block more. -/
def push (rs : Runs) (slot index : Nat) : Runs :=
  match rs.last with
  | none => { rs with last := some ⟨slot, index, 1⟩ }
  | some r =>
    if r.meets slot index then { rs with last := some { r with count := r.count + 1 } }
    else ⟨rs.ended.push r, some ⟨slot, index, 1⟩⟩

/-- All runs. -/
def toArray (rs : Runs) : Array Run :=
  match rs.last with
  | none => rs.ended
  | some r => rs.ended.push r

/-- The runs of a list of blocks. -/
def ofArray (blocks : Array (Nat × Nat)) : Runs :=
  blocks.foldl (fun rs b => rs.push b.1 b.2) empty

/-- The largest number of runs that are told in full. -/
def fullLimit : Nat := 40

/-- How runs are told. -/
inductive Summary where
  | full (runs : List Run)
  /-- Their number, the first and the last ones, and a check over all. -/
  | digest (count : Nat) (head tail : List Run) (check : Nat)
  deriving DecidableEq, Repr

/-- One run in the check. -/
def checkStep (check : Nat) (r : Run) : Nat :=
  (check * 31 + r.slot * 7 + r.first * 3 + r.count) % 1000000007

/-- How a list of runs is told. -/
def summary (rs : Runs) : Summary :=
  let runs := rs.toArray
  if runs.size ≤ fullLimit then .full runs.toList
  else
    .digest runs.size (runs.extract 0 8).toList (runs.extract (runs.size - 4) runs.size).toList
      (runs.foldl checkStep 0)

end Runs

end BlockHeap
