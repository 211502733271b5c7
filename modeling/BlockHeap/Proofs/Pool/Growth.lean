import BlockHeap.Pool.Growth
import BlockHeap.Proofs.Heap.Sound

/-!
# The stages of an allocation from a pool

What filling a claimed slot comes to (`fillSlot_of_ok`, `fillSlot_of_error`), and what a round of an allocation comes
to, depending on how far it gets: it finds a block (`round_of_found`), the pool is full (`round_of_full`), the slot that
it claims cannot be filled (`round_of_failed`), or it is filled and there is a block left (`round_of_grown`) or none
(`round_of_outrun`).
-/

namespace BlockHeap.Call

variable {ε : Type} {c c1 c2 c3 c4 : Call ε} {k slot : Nat}

theorem onPool_eq {α : Type} (c : Call ε) (k : Nat) (f : Pool → α × Pool) :
    c.onPool k f = ((f (c.heap.pool k)).1, { c with heap := c.heap.setPool k (f (c.heap.pool k)).2 }) := by
  rw [onPool, Heap.onPool_eq]

/-- Claiming the slot after the last one that is counted. -/
theorem onPool_claimSlot {n : Nat} (h : (c.heap.pool k).count = n) :
    c.onPool k (·.claimSlot n) =
      (true, { c with heap := c.heap.setPool k { c.heap.pool k with count := n + 1 } }) := by
  rw [onPool_eq, Pool.claimSlot, if_pos h]

/-- Filling a slot with an arena that could be made. -/
theorem fillSlot_of_ok {r : Resident Arena}
    (h : c.houseArena (c.heap.pool k).policy (c.heap.pool k).blockSize = (.ok r, c1)) :
    c.fillSlot k slot = (.ok (), ((c1.modifyPool k (·.publish slot r)).log
      (.poolGrew (c.heap.pool k).policy (c.heap.pool k).blockSize slot)).announceGrowth) := by
  rw [fillSlot]
  simp only [h]

/-- Giving a slot back when no arena could be made. -/
theorem fillSlot_of_error {e : AllocError}
    (h : c.houseArena (c.heap.pool k).policy (c.heap.pool k).blockSize = (.error (.error e), c1)) :
    c.fillSlot k slot = (.error (.error e), (c1.onPool k (·.giveBack slot)).2.log
      (.growthFailed (c.heap.pool k).policy (c.heap.pool k).blockSize slot (c1.onPool k (·.giveBack slot)).1)) := by
  rw [fillSlot]
  simp only [h]

/-- A round ends with a block of an existing arena. -/
theorem round_of_found {x : Nat} (h : c.onPool k (·.takeExisting (c.heap.pool k).count) = (.ok (some x), c1)) :
    c.round k = (some (.ok x), c1) := by
  rw [round]
  simp only [h]

section NotFound

variable (h : c.onPool k (·.takeExisting (c.heap.pool k).count) = (.ok none, c1))
include h

/-- A round ends when there may be no more arenas. -/
theorem round_of_full (hmax : (c1.heap.pool k).maxArenas ≤ (c.heap.pool k).count) :
    c.round k = (some (.error (.error (.poolExhausted (c1.heap.pool k).blockSize (c.heap.pool k).count))),
      c1.log (.poolExhausted (c1.heap.pool k).policy (c1.heap.pool k).blockSize (c.heap.pool k).count)) := by
  rw [round]
  simp only [h, hmax, if_true]

variable (hmax : ¬(c1.heap.pool k).maxArenas ≤ (c.heap.pool k).count)
  (hclaim : c1.onPool k (·.claimSlot (c.heap.pool k).count) = (true, c2))
include hmax hclaim

/-- A round ends when the slot it claimed cannot be filled. -/
theorem round_of_failed {f : Failure} (hfill : c2.fillSlot k (c.heap.pool k).count = (.error f, c3)) :
    c.round k = (some (.error f), c3) := by
  rw [round]
  simp only [h, hmax, if_false, hclaim, hfill]

variable (hfill : c2.fillSlot k (c.heap.pool k).count = (.ok (), c3))
include hfill

/-- A round ends with a block of the arena that it made. -/
theorem round_of_grown {x : Nat} (htake : c3.onPool k (·.takeFrom (c.heap.pool k).count) = (.ok (some x), c4)) :
    c.round k = (some (.ok x), c4) := by
  rw [round]
  simp only [h, hmax, if_false, hclaim, hfill, htake]

/-- Another round is needed when others took all blocks of the arena that this one made. -/
theorem round_of_outrun (htake : c3.onPool k (·.takeFrom (c.heap.pool k).count) = (.ok none, c4)) :
    c.round k = (none, c4) := by
  rw [round]
  simp only [h, hmax, if_false, hclaim, hfill, htake]

end NotFound

end BlockHeap.Call
