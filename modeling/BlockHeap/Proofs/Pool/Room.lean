import BlockHeap.Proofs.Pool.Blocks

/-!
# How many blocks a pool has

The counted slots are those with an arena and the `holes`, in which there will never be one
(`SlotsSound.card_arenas`), and each arena has as many blocks as the geometry says (`Sound.card_grid`). Steady steps
keep the holes, and so does a growth that succeeds at once (`holes_grow`).
-/

namespace BlockHeap.Pool

variable {p q : Pool} {claimed : List Nat}

/-- The number of counted slots without an arena. -/
def holes (p : Pool) : Nat := (List.range p.count).countP fun i => (p.slot? i).isNone

theorem card_arenas_eq (p : Pool) : p.arenas.card = (List.range capacity).countP fun i => (p.slot? i).isSome := by
  have hlist : p.slots.toList = (List.range capacity).map p.slot? := by
    refine List.ext_getElem (by simp) fun i h1 h2 => ?_
    have hi : i < capacity := by simpa using h1
    simp [slot?, hi]
  rw [arenas, Multiset.coe_card, published, List.length_filterMap_eq_countP, hlist, List.countP_map]
  rfl

/-- **Every counted slot has an arena or is a hole.** -/
theorem SlotsSound.card_arenas (h : p.SlotsSound claimed) : p.arenas.card + p.holes = p.count := by
  have hcap : capacity = p.count + (capacity - p.count) := by
    have := h.count_le
    have := p.maxArenas_le
    omega
  have hrest : ((List.range (capacity - p.count)).map (p.count + ·)).countP (fun i => (p.slot? i).isSome) = 0 := by
    rw [List.countP_eq_zero]
    intro i hi
    obtain ⟨j, -, rfl⟩ := List.mem_map.mp hi
    intro hsome
    have := h.lt_of_isSome _ hsome
    omega
  have hsplit := List.length_eq_countP_add_countP (fun i => (p.slot? i).isSome) (l := List.range p.count)
  rw [List.length_range] at hsplit
  rw [card_arenas_eq, hcap, List.range_add, List.countP_append, hrest, Nat.add_zero, holes]
  refine Eq.trans ?_ hsplit.symm
  congr 1
  exact List.countP_congr fun i _ => by simp

/-- **The number of blocks** of all arenas. -/
theorem Sound.card_grid (h : p.Sound claimed) {g : Arena.Geometry}
    (hg : Arena.Geometry.ofBlockSize p.blockSize = .ok g) : p.grid.card = p.arenas.card * g.blockCount := by
  have hcount : ∀ r ∈ p.arenas, r.value.grid.card = g.blockCount := by
    intro r hr
    obtain ⟨hsize, g', hg'⟩ := h.arenas r hr
    have hsame := hg'.geometry
    rw [hsize, hg] at hsame
    injection hsame with hsame
    rw [Arena.grid, Multiset.card_map, Multiset.card_range, hg'.blockCount, hsame]
  have hcard : ∀ s : Multiset (Resident Arena), (∀ r ∈ s, r.value.grid.card = g.blockCount) →
      (s.bind (·.value.grid)).card = s.card * g.blockCount := by
    intro s
    induction s using Multiset.induction with
    | empty =>
      intro _
      simp
    | cons r s ih =>
      intro hs
      rw [Multiset.cons_bind, Multiset.card_add, hs r (Multiset.mem_cons_self r s),
        ih fun r hr => hs r (Multiset.mem_cons_of_mem hr), Multiset.card_cons, Nat.add_mul, Nat.one_mul, Nat.add_comm]
  exact hcard _ hcount

/-- Work in existing arenas keeps the holes. -/
theorem Steady.holes (h : p.Steady q) : q.holes = p.holes := by
  rw [Pool.holes, Pool.holes, h.count]
  refine List.countP_congr fun i _ => ?_
  rw [← Option.not_isSome, ← Option.not_isSome, h.isSome_slot?]

/-- Work in existing arenas makes no arenas. -/
theorem Steady.card_arenas (h : p.Steady q) : q.arenas.card = p.arenas.card := by
  rw [card_arenas_eq, card_arenas_eq]
  exact List.countP_congr fun i _ => by rw [h.isSome_slot?]

/-- A growth that fills the slot after the last one keeps the holes. -/
theorem holes_grow (hcount : q.count = p.count + 1) (hnew : (q.slot? p.count).isSome = true)
    (hold : ∀ i, i < p.count → (q.slot? i).isSome = (p.slot? i).isSome) : q.holes = p.holes := by
  rw [holes, holes, hcount, List.range_succ, List.countP_append]
  have hzero : [p.count].countP (fun i => (q.slot? i).isNone) = 0 := by
    rw [List.countP_eq_zero]
    intro i hi
    rw [List.mem_singleton.mp hi, ← Option.not_isSome, hnew]
    decide
  rw [hzero, Nat.add_zero]
  refine List.countP_congr fun i hi => ?_
  rw [← Option.not_isSome, ← Option.not_isSome, hold i (List.mem_range.mp hi)]

/-- When all blocks are held and all slots are counted, as many blocks are held as the pool may have. -/
theorem Sound.card_held_of_full (h : p.Sound claimed) {g : Arena.Geometry}
    (hg : Arena.Geometry.ofBlockSize p.blockSize = .ok g) (hfull : p.held = p.grid) (hmax : p.maxArenas ≤ p.count) :
    p.held.card = (p.maxArenas - p.holes) * g.blockCount := by
  have hcard := h.slots.card_arenas
  have hle := h.slots.count_le
  rw [hfull, h.card_grid hg]
  congr 1
  omega

/-- No more blocks are held than the pool may have. -/
theorem Sound.card_held_le (h : p.Sound claimed) {g : Arena.Geometry}
    (hg : Arena.Geometry.ofBlockSize p.blockSize = .ok g) : p.held.card ≤ (p.maxArenas - p.holes) * g.blockCount := by
  have hcard := h.slots.card_arenas
  have hle := h.slots.count_le
  refine Nat.le_trans (Multiset.card_le_card h.held_le_grid) ?_
  rw [h.card_grid hg]
  exact Nat.mul_le_mul_right _ (by omega)

end BlockHeap.Pool
