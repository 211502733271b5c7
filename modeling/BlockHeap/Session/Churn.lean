import BlockHeap.Pool.Growth
import BlockHeap.Session.Allocate

/-!
# Wearing a pool in

A shared pool is filled until it is exhausted and emptied again; then a number of threads take and return blocks for a
number of rounds, and the pool is filled again. What is reported holds for every order in which the threads take their
turns, so here they take them one after the other.
-/

namespace BlockHeap.Session

/-- What is to be done. -/
structure Churn where
  blockSize : Nat
  maxArenas : Nat
  threads : Nat
  /-- How often each thread takes a block and returns it. -/
  rounds : Nat
  /-- Whether the pool is first filled by the threads, and not by a bystander. -/
  rush : Bool

/-- What came of it. -/
structure ChurnReport where
  /-- The number of blocks of the first filling. -/
  warm : Nat
  warmDistinct : Nat
  /-- The number of blocks of the second filling. -/
  drained : Nat
  distinct : Nat
  /-- The number of blocks handed out to a thread while another held them. -/
  clashes : Nat
  arenas : Nat
  next : Except Failure Nat

namespace Churn

/-- The number of different addresses. -/
def countDistinct (addresses : Array Nat) : Nat :=
  let sorted := addresses.qsort (· < ·)
  (sorted.foldl (fun (n, last) a => (if last = some a then n else n + 1, some a)) (0, (none : Option Nat))).1

/-- The pool of a churn. -/
def pool (t : Churn) : Except Fault Pool :=
  match Pool.Settings.empty.changeAll [.blockSize t.blockSize, .maxArenas t.maxArenas] with
  | .error f => .error f
  | .ok settings => settings.build .shared

/-- More blocks than a pool can have. -/
def blockLimit (t : Churn) : Nat := t.maxArenas * (Arena.regionBytes / t.blockSize) + 1

/-- Takes blocks until there are no more. -/
def fill (c : Call Unit) (taken : Array Nat) : (n : Nat) → Array Nat × Call Unit
  | 0 => (taken, c)
  | n + 1 =>
    match c.allocate 0 with
    | (.ok a, c) => fill c (taken.push a) n
    | (.error _, c) => (taken, c)

/-- Returns blocks. -/
def empty (c : Call Unit) (blocks : Array Nat) : Call Unit := blocks.foldl (fun c a => (c.deallocate 0 a).2) c

/-- Takes one block for each of `n` threads, besides those held already; counts those that were held. -/
def takeEach (c : Call Unit) (held : List Nat) (clashes : Nat) : (n : Nat) → List Nat × Nat × Call Unit
  | 0 => (held, clashes, c)
  | n + 1 =>
    match c.allocate 0 with
    | (.ok a, c) => takeEach c (a :: held) (if a ∈ held then clashes + 1 else clashes) n
    | (.error _, c) => takeEach c held clashes n

/-- Rounds in which every thread takes a block and then returns it. -/
def turns (c : Call Unit) (threads clashes : Nat) : (rounds : Nat) → Nat × Call Unit
  | 0 => (clashes, c)
  | n + 1 =>
    match takeEach c [] clashes threads with
    | (held, clashes, c) => turns (empty c held.toArray) threads clashes n

/-- Carries a churn out. -/
def run (t : Churn) : Except Fault ChurnReport := do
  let p ← t.pool
  let c : Call Unit := .alone (Heap.fresh.addPools [p]) ()
  let fillers := if t.rush then t.threads else 1
  let (warm, c) := if fillers = 0 then (#[], c) else fill c #[] t.blockLimit
  let c := empty c warm
  let (clashes, c) := turns c t.threads 0 t.rounds
  let (drained, c) := fill c #[] t.blockLimit
  let (next, c) := c.allocate 0
  return {
    warm := warm.size
    warmDistinct := countDistinct warm
    drained := drained.size
    distinct := countDistinct drained
    clashes
    arenas := (c.heap.pool 0).count
    next }

end Churn

end BlockHeap.Session
