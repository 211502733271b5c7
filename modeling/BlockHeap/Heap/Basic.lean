import BlockHeap.Heap.Memory
import BlockHeap.Pool.Basic

/-!
# The heap

All the memory of a process: what the operating system has mapped, what lies in it, and the pools that divide it into
blocks. Pools are known by their number in the table of pools.
-/

namespace BlockHeap

/-- The memory of a process. -/
structure Heap where
  os : Os
  memory : Memory
  pools : Array Pool

namespace Heap

/-- A heap without pools on an operating system. -/
def onOs (os : Os) : Heap := ⟨os, .empty, #[]⟩

/-- The heap of a new process. -/
def fresh : Heap := onOs .standard

/-- The pool of a given number. -/
def pool (h : Heap) (k : Nat) : Pool := h.pools.getD k .vacant

/-- Puts a pool in the place of another. -/
def setPool (h : Heap) (k : Nat) (p : Pool) : Heap := { h with pools := h.pools.setIfInBounds k p }

/-- Takes a pool out. What is taken out has no other owner, so it is changed in place. -/
@[noinline] def takePool (h : Heap) (k : Nat) : Pool × Heap := (h.pool k, h.setPool k .vacant)

/-- Does something with a pool. -/
@[specialize] def onPool {α : Type} (h : Heap) (k : Nat) (f : Pool → α × Pool) : α × Heap :=
  match h.takePool k with
  | (p, h) =>
    let r := f p
    (r.1, h.setPool k r.2)

/-- Adds pools to the table. -/
def addPools (h : Heap) (ps : List Pool) : Heap := { h with pools := h.pools ++ ps.toArray }

/-- Gives a mapping back to the operating system, with all that lies in it. -/
def unmap (h : Heap) (m : Mapping) : Heap :=
  { h with os := h.os.unmap m, memory := h.memory.erase m.start m.len }

/-- Gives the mappings of an arena back: first its region, then that of its own data. -/
def unmapArena (h : Heap) (resident : Resident Arena) : Heap :=
  (h.unmap resident.value.region).unmap resident.mapping

/-- Gives all arenas of a pool back. -/
def dropPool (h : Heap) (k : Nat) : Heap :=
  let arenas := (h.pool k).published
  arenas.foldl unmapArena (h.setPool k .vacant)

end Heap

end BlockHeap
