import BlockHeap.Heap.Oversized
import BlockHeap.Pool.Growth

/-!
# Registries

A registry has a pool for each size class. It serves a request for a number of bytes from the pool of the least class
that fits, and a request that no class fits by a mapping of its own. The pools of a registry follow one another in the
heap's table of pools, in order of class.
-/

namespace BlockHeap

/-- One pool for each size class. -/
structure Registry where
  /-- Who may use the registry. -/
  policy : Policy
  /-- The number of the pool of the smallest class. -/
  first : Nat
  deriving DecidableEq, Repr

namespace Registry

/-- The pools of a new registry, in order of class. -/
def freshPools (policy : Policy) : Except Fault (List Pool) :=
  (List.range SizeClass.count).mapM fun i => do Pool.ofBlockSize policy (← SizeClass.ofIndex i)

/-- Adds a new registry to a heap. -/
def create (h : Heap) (policy : Policy) : Except Fault Registry × Heap :=
  match freshPools policy with
  | .error f => (.error f, h)
  | .ok pools => (.ok ⟨policy, h.pools.size⟩, h.addPools pools)

/-- The number of the pool with blocks of exactly `size` bytes, if the registry has one. -/
def poolNumber? (r : Registry) (size : Nat) : Except Fault (Option Nat) :=
  if SizeClass.fitting size ≠ size ∨ size = SizeClass.unclassed then .ok none
  else do
    let i ← SizeClass.index size
    return if i < SizeClass.count then some (r.first + i) else none

/-- What serves a request for a number of bytes: a pool, or (`none`) a mapping of its own. -/
def route (r : Registry) (bytes : Nat) : Except Fault (Option Nat) :=
  let size := SizeClass.fitting bytes
  if size = SizeClass.unclassed then .ok none
  else do
    let i ← SizeClass.index size
    return some (r.first + i)

/-- Allocates a number of bytes. -/
def allocate {ε : Type} (r : Registry) (c : Call ε) (bytes : Nat) : Except Failure Nat × Call ε :=
  match r.route bytes with
  | .error f => (.error (.fault f), c)
  | .ok none => c.mapOversized bytes
  | .ok (some k) => c.allocate k

/-- Takes back a block that was allocated for a number of bytes. -/
def deallocate {ε : Type} (r : Registry) (c : Call ε) (address bytes : Nat) : Except Fault Unit × Call ε :=
  match r.route bytes with
  | .error f => (.error f, c)
  | .ok none => c.unmapOversized address bytes
  | .ok (some k) => c.deallocate k address

/-- The numbers of the registry's pools. -/
def poolNumbers (r : Registry) : List Nat := (List.range SizeClass.count).map (r.first + ·)

/-- The numbers of the pools that have arenas. -/
def activePools (r : Registry) (h : Heap) : List Nat := r.poolNumbers.filter fun k => 0 < (h.pool k).count

/-- The classes whose pools have arenas, with the number of arenas. -/
def active (r : Registry) (h : Heap) : List (Nat × Nat) :=
  (r.activePools h).map fun k => ((h.pool k).blockSize, (h.pool k).count)

/-- Gives the arenas of all pools back. Oversized blocks stay. -/
def drop (r : Registry) (h : Heap) : Heap := r.poolNumbers.foldl Heap.dropPool h

/-- The description of a registry. -/
def describe (r : Registry) (h : Heap) : String :=
  Text.record "Registry" [("policy", Text.quoted r.policy.name),
    ("active_pools", Text.list ((r.activePools h).map fun k => (h.pool k).describe))]

end Registry

end BlockHeap
