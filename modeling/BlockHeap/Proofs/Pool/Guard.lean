import BlockHeap.Proofs.Pool.Blocks
import BlockHeap.Proofs.Pool.Regular

/-!
# Wrong deallocations

What a pool makes of an address that somebody gives back, when its blocks were in order before: an address outside all
arenas is refused (`Sound.deallocate_outside`), and so are an address inside a block but not at its start
(`Sound.deallocate_offBoundary`) and a block that is free (`Sound.deallocate_free`). In these cases nothing changes; the
last of them is noticed only after the block's bit has been set, but then the bit was set before. A block that is taken
becomes free, and nothing else changes but the mark of its region (`Sound.deallocate_taken`).
-/

namespace BlockHeap

namespace FreeMap

variable {m : FreeMap} {j : Nat}

/-- Block `j` has been given back: it is free, its region is marked, and nothing else has changed. -/
structure Freed (m : FreeMap) (j : Nat) (n : FreeMap) : Prop extends Alike m n where
  searches : n.searches = m.searches
  isFree_iff : ∀ l, n.isFree l = true ↔ l = j ∨ m.isFree l = true
  isMarked_iff : ∀ l, n.isMarked l = true ↔ l = regionOfWord (j / bitsPerWord) ∨ m.isMarked l = true

/-- Giving back a block that is not free. -/
theorem release_freed (hj : j < m.blockCount) (hfree : m.isFree j = false) :
    ∃ n, m.release j = (.ok (), n) ∧ m.Freed j n :=
  ⟨_, release_of_not_isFree hj hfree, ⟨rfl, rfl⟩, rfl, isFree_addBlock m (word_index_lt hj),
    isMarked_mark (m.addBlock j (word_index_lt hj)) (summary_index_lt m.shape (word_index_lt hj))⟩

end FreeMap

namespace Pool

variable {p : Pool} {claimed : List Nat} {i j x : Nat} {r : Resident Arena}

/-- The address lies among the blocks of the arena. -/
def Within (x : Nat) (r : Resident Arena) : Prop := r.value.base ≤ x ∧ x < r.value.base + r.value.usable

/-- The pool with another free map in the arena `r` in slot `i`. -/
def withFree (p : Pool) (i : Nat) (r : Resident Arena) (m : FreeMap) : Pool :=
  p.putSlot i (some { r with value := { r.value with free := m } })

namespace Sound

/-- The arena in a slot of a sound pool. -/
theorem arena (h : p.Sound claimed) (hi : p.slot? i = some r) : ∃ g, r.value.Sound g :=
  (h.arenas r (mem_arenas.mpr ⟨i, hi⟩)).2

theorem owns_iff (h : p.Sound claimed) (hi : p.slot? i = some r) : r.value.owns x = true ↔ Within x r := by
  obtain ⟨g, hg⟩ := h.arena hi
  exact hg.owns_iff x

/-- **An address outside all arenas** is refused. -/
theorem deallocate_outside (h : p.Sound claimed) (hx : ∀ i r, p.slot? i = some r → ¬Within x r) :
    p.deallocate x = (.error .foreignToPool, p) := by
  rw [deallocate]
  cases howner : p.owner? x with
  | none => rfl
  | some i =>
    obtain ⟨-, -, r, hr, howns⟩ := of_ownerFrom _ howner
    exact absurd ((h.owns_iff hr).mp howns) (hx i r hr)

variable (h : p.Sound claimed) (hapart : Mapping.Apart p.mappings) (hi : p.slot? i = some r)

include h hapart hi

/-- An address inside an arena is up to the arena. -/
theorem deallocate_within (hx : Within x r) :
    p.deallocate x =
      ((r.value.deallocate x).1, p.putSlot i (some { r with value := (r.value.deallocate x).2 })) := by
  rw [deallocate, h.owner?_of_owns hapart hi ((h.owns_iff hi).mpr hx)]
  simp only [onArena_some hi]

/-- An address inside an arena that leaves it as it is. -/
theorem deallocate_refused (hx : Within x r) {f : Fault} (hf : r.value.deallocate x = (.error f, r.value)) :
    p.deallocate x = (.error f, p) := by
  rw [h.deallocate_within hapart hi hx, hf, putSlot_self hi]

/-- **An address inside a block** but not at its start is refused. -/
theorem deallocate_offBoundary (hx : Within x r) (hoff : (x - r.value.base) % r.value.blockSize ≠ 0) :
    p.deallocate x = (.error .offBoundary, p) := by
  refine h.deallocate_refused hapart hi hx ?_
  rw [Arena.deallocate, (h.owns_iff hi).mpr hx]
  simp only [Bool.not_true, Bool.false_eq_true, if_false, hoff, ne_eq, not_false_eq_true, if_true]

omit hapart in
/-- The start of a block lies among the blocks. -/
theorem within_address (hj : j < r.value.blockCount) : Within (r.value.address j) r := by
  obtain ⟨g, hg⟩ := h.arena hi
  exact (h.owns_iff hi).mp (hg.owns_address hj)

/-- **A block that is free** is refused. -/
theorem deallocate_free (hj : j < r.value.blockCount) (hfree : r.value.free.isFree j = true) :
    p.deallocate (r.value.address j) = (.error .alreadyFree, p) := by
  obtain ⟨g, hg⟩ := h.arena hi
  refine h.deallocate_refused hapart hi (h.within_address hi hj) ?_
  rw [hg.deallocate_eq hj, FreeMap.release_of_isFree hj hfree]

/-- **A block that is taken** is free afterwards, and nothing else changes but the mark of its region. -/
theorem deallocate_taken (hj : j ∈ r.value.taken) :
    ∃ m, p.deallocate (r.value.address j) = (.ok (), p.withFree i r m) ∧ r.value.free.isFree j = false ∧
      r.value.free.Freed j m := by
  obtain ⟨g, hg⟩ := h.arena hi
  have hlt := hg.lt_blockCount hj
  have hfree : r.value.free.isFree j = false := by
    rw [← Bool.not_eq_true, ← FreeMap.mem_freeSet]
    exact (Arena.Sound.mem_taken.mp hj).2
  obtain ⟨m, hm, hfreed⟩ := FreeMap.release_freed hlt hfree
  refine ⟨m, ?_, hfree, hfreed⟩
  rw [h.deallocate_within hapart hi (h.within_address hi hlt), hg.deallocate_eq hlt, hm]
  rfl

end Sound

end Pool

end BlockHeap
