import BlockHeap.Proofs.Arena.Blocks
import Mathlib.Data.Multiset.Range

/-!
# The blocks in use of an arena

The blocks of an arena are known to its users by their addresses: `held` are the addresses of those handed out, `grid`
those of all blocks, both as multisets.
-/

namespace BlockHeap

/-! ## Lists as multisets -/

/-- The entry of a list in one place and all the others. -/
theorem coe_eq_cons_eraseIdx {α : Type} {l : List α} {i : Nat} (h : i < l.length) :
    (l : Multiset α) = l[i] ::ₘ (l.eraseIdx i : Multiset α) := by
  rw [Multiset.cons_coe, Multiset.coe_eq_coe]
  exact (List.getElem_cons_eraseIdx_perm h).symm

theorem coe_set_eq_cons_eraseIdx {α : Type} {l : List α} {i : Nat} (h : i < l.length) (x : α) :
    (l.set i x : Multiset α) = x ::ₘ (l.eraseIdx i : Multiset α) := by
  rw [coe_eq_cons_eraseIdx (l := l.set i x) (by simpa using h), List.eraseIdx_set_eq, List.getElem_set_self]

/-! ## The blocks of an arena -/

namespace Arena

/-- The addresses of the blocks that are taken. -/
def held (a : Arena) : Multiset Nat := a.taken.val.map a.address

/-- The addresses of all blocks. -/
def grid (a : Arena) : Multiset Nat := (Multiset.range a.blockCount).map a.address

theorem Alike.grid {a b : Arena} (h : a.Alike b) : b.grid = a.grid := by
  rw [Arena.grid, Arena.grid, h.blockCount]
  exact Multiset.map_congr rfl fun i _ => h.address i

theorem Sound.mem_held {a : Arena} {x : Nat} : x ∈ a.held ↔ ∃ i ∈ a.taken, a.address i = x := by
  simp [held]

/-- One more block is taken. -/
theorem Alike.held_insert {a b : Arena} (h : a.Alike b) {i : Nat} (hi : i ∉ a.taken) (ht : b.taken = insert i a.taken) :
    b.held = a.address i ::ₘ a.held := by
  rw [held, ht, Finset.insert_val_of_notMem hi, Multiset.map_cons, h.address]
  exact congrArg _ (Multiset.map_congr rfl fun j _ => h.address j)

/-- One block is given back. -/
theorem Alike.held_erase {a b : Arena} (h : a.Alike b) {i : Nat} (hi : i ∈ a.taken) (ht : b.taken = a.taken.erase i) :
    a.held = a.address i ::ₘ b.held := by
  have hval : a.taken.val = i ::ₘ b.taken.val := by
    rw [ht, Finset.erase_val, Multiset.cons_erase hi]
  rw [held, hval, Multiset.map_cons]
  exact congrArg _ (Multiset.map_congr rfl fun j _ => (h.address j).symm)

/-- The same blocks are taken. -/
theorem Alike.held_eq {a b : Arena} (h : a.Alike b) (ht : b.taken = a.taken) : b.held = a.held := by
  rw [held, ht]
  exact Multiset.map_congr rfl fun j _ => h.address j

theorem held_of_empty {a : Arena} (h : a.taken = ∅) : a.held = 0 := by
  rw [held, h]
  rfl

theorem held_of_full {a : Arena} (h : a.taken = Finset.range a.blockCount) : a.held = a.grid := by
  rw [held, grid, h, Finset.range_val]

theorem Sound.held_le_grid {a : Arena} {g : Geometry} (h : a.Sound g) : a.held ≤ a.grid := by
  refine Multiset.map_le_map ?_
  rw [← Finset.range_val, Finset.val_le_iff]
  intro i hi
  exact Finset.mem_range.mpr (h.lt_blockCount hi)

theorem Sound.grid_nodup {a : Arena} {g : Geometry} (h : a.Sound g) : a.grid.Nodup :=
  (Multiset.nodup_range _).map h.address_injective

end Arena

end BlockHeap
