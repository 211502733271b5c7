import BlockHeap.Proofs.Heap.Calls

/-!
# Exhausted pools

A pool is *exhausted* when all its blocks are held and it has no slot left for another arena. An allocation that reports
an exhausted pool leaves the pool so (`Call.Keeps.allocate_exhausted`): the only other errors with which an allocation
ends are those of the operating system (`Call.error_of_map` to `Call.error_of_fillSlot`). When all blocks of a pool are
held, there is a block in use at each place of each of its arenas (`Heap.Sound.exists_block_of_full`).
-/

namespace BlockHeap

/-- All blocks are held, and all slots that the pool may have are counted. -/
structure Pool.Exhausted (p : Pool) (size n : Nat) : Prop where
  blockSize : p.blockSize = size
  count : p.count = n
  maxArenas : p.maxArenas = n
  full : p.held = p.grid

/-- All blocks of all arenas are in use. -/
theorem Heap.Sound.exists_block_of_full {h : Heap} {blocks : Multiset Block} {claimed : Nat → List Nat}
    {pending : Multiset Mapping} (hs : h.Sound blocks claimed pending) {k : Nat} {g : Arena.Geometry}
    (hg : Arena.Geometry.ofBlockSize (h.pool k).blockSize = .ok g) (hfull : (h.pool k).held = (h.pool k).grid)
    {r : Resident Arena} (hr : r ∈ (h.pool k).published) {i : Nat} (hi : i < g.blockCount) :
    ∃ b ∈ blocks, b.pool = some k ∧ b.address = r.value.base + i * g.blockSize := by
  obtain ⟨hsize, g', hsound⟩ := (hs.pools k).arenas r (Multiset.mem_coe.mpr hr)
  have hgeometry := hsound.geometry
  rw [hsize, hg] at hgeometry
  obtain rfl := Except.ok.inj hgeometry
  have hmem : r.value.address i ∈ (h.pool k).held := by
    rw [hfull, Pool.grid, Multiset.mem_bind]
    refine ⟨r, Multiset.mem_coe.mpr hr, ?_⟩
    rw [Arena.grid, hsound.blockCount]
    exact Multiset.mem_map_of_mem _ (Multiset.mem_range.mpr hi)
  rw [← hs.held k, Block.addresses, Multiset.mem_map] at hmem
  obtain ⟨b, hb, haddress⟩ := hmem
  obtain ⟨hb, hpool⟩ := Multiset.mem_filter.mp hb
  refine ⟨b, hb, hpool, haddress.trans ?_⟩
  rw [Arena.address, (Arena.Geometry.ofBlockSize_fits hsound.geometry).1]

namespace Call

variable {ε : Type} {c c' : Call ε} {k slot : Nat} {e : AllocError}

/-! ## Errors -/

/-- An error of the operating system. -/
def OsFailed (e : AllocError) : Prop := ∃ size os, e = .map size os

theorem error_of_map {size : Nat} (h : (c.map size).1 = .error e) : OsFailed e := by
  unfold Call.map at h
  dsimp only at h
  split at h
  · cases h
  · exact ⟨_, _, (Except.error.inj h).symm⟩

theorem error_of_mapArena {policy : Policy} {size : Nat} (h : (c.mapArena policy size).1 = .error (.error e)) :
    OsFailed e := by
  unfold mapArena at h
  split at h
  · cases h
  · split at h
    · rename_i e' c1 hmap
      obtain rfl : e' = e := by simpa using h
      exact error_of_map (congrArg Prod.fst hmap)
    · split at h <;> cases h

theorem error_of_houseArena {policy : Policy} {size : Nat} (h : (c.houseArena policy size).1 = .error (.error e)) :
    OsFailed e := by
  unfold houseArena at h
  split at h
  · rename_i f c1 hmap
    obtain rfl : f = .error e := by simpa using h
    exact error_of_mapArena (congrArg Prod.fst hmap)
  · rename_i a c1 _
    unfold house at h
    split at h
    · rename_i e' c2 hhouse
      obtain rfl : e' = e := by simpa using h
      split at hhouse
      · cases hhouse
      · rename_i e'' c3 hmap
        obtain rfl : e'' = e' := Except.error.inj (congrArg Prod.fst hhouse)
        exact error_of_map (congrArg Prod.fst hmap)
    · cases h

/-- **A slot is not filled** only because the operating system refused a mapping. -/
theorem error_of_fillSlot (h : (c.fillSlot k slot).1 = .error (.error e)) : OsFailed e := by
  unfold fillSlot at h
  dsimp only at h
  split at h
  · cases h
  · rename_i e' c1 hhouse
    obtain rfl : e' = e := by simpa using h
    exact error_of_houseArena (congrArg Prod.fst hhouse)
  · rename_i f c1 hne hhouse
    obtain rfl : f = .error e := by simpa using h
    exact absurd rfl (hne e)

/-- A request for a mapping of its own never finds a pool exhausted. -/
theorem error_of_mapOversized {size blockSize n : Nat} :
    (c.mapOversized size).1 ≠ .error (.error (.poolExhausted blockSize n)) := by
  intro h
  unfold mapOversized at h
  split at h
  · split at h
    · rename_i e' c1 hmap
      obtain rfl : e' = .poolExhausted blockSize n := by simpa using h
      obtain ⟨size, os, he⟩ := error_of_map (congrArg Prod.fst hmap)
      cases he
    · cases h
  · cases h

/-! ## Allocation -/

variable {W : Terms ε} {claimed : Nat → List Nat} {pending : Multiset Mapping} {size n : Nat}

namespace Keeps

/-- A round ends with an exhausted pool only if the pool is exhausted. -/
theorem round_exhausted (hc : c.Keeps W claimed pending) (hk : W.Busy k)
    (h : c.round k = (some (.error (.error (.poolExhausted size n))), c')) : (c'.heap.pool k).Exhausted size n := by
  rcases hc.take hk 0 (f := (·.takeExisting (c.heap.pool k).count)) ((hc.heap.pools k).takeExisting_took _) with
    ⟨x, c1, h1, -⟩ | ⟨q, c1, hnone, hkept, hc1, h1, h2⟩
  · rw [round_of_found h1] at h
    cases h
  have hkept1 : (c.heap.pool k).Kept (c1.heap.pool k) := by
    rw [hc1]
    exact Heap.kept_setPool hkept k
  by_cases hmax : (c1.heap.pool k).maxArenas ≤ (c.heap.pool k).count
  · rw [round_of_full h1 hmax] at h
    cases h
    refine ⟨rfl, hkept1.count, ?_, ?_⟩
    · exact Nat.le_antisymm hmax (hkept1.count ▸ (h2.heap.pools k).slots.count_le)
    · -- nobody took or gave back a block since the arenas were searched
      have hrest : c1.rest = c.rest := by rw [hc1]
      calc (c1.heap.pool k).held
          = Block.addresses (W.blocks c1.rest) k := (h2.heap.held k).symm
        _ = (c.heap.pool k).held := by rw [hrest, hc.heap.held k]
        _ = (c.heap.pool k).grid :=
          (hc.heap.pools k).held_eq_grid_of_takeExisting (Nat.le_refl _) (congrArg Prod.fst hnone)
        _ = (c1.heap.pool k).grid := hkept1.grid.symm
  · obtain ⟨c2, hclaim⟩ : ∃ c2, c1.onPool k (·.claimSlot (c.heap.pool k).count) = (true, c2) :=
      ⟨_, onPool_claimSlot hkept1.count⟩
    cases hfill : c2.fillSlot k (c.heap.pool k).count with
    | mk r c3 =>
      cases r with
      | error f =>
        rw [round_of_failed h1 hmax hclaim hfill] at h
        obtain rfl : f = .error (.poolExhausted size n) := by simpa using congrArg Prod.fst h
        obtain ⟨_, _, he⟩ := error_of_fillSlot (congrArg Prod.fst hfill)
        cases he
      | ok u =>
        rw [Call.round] at h
        simp only [h1, hmax, if_false, hclaim, hfill] at h
        split at h <;> cases h

/-- Rounds end with an exhausted pool only if the pool is exhausted. -/
theorem rounds_exhausted (hk : W.Busy k) (fuel : Nat) : ∀ {c : Call ε}, c.Keeps W claimed pending →
    c.rounds k fuel = (.error (.error (.poolExhausted size n)), c') → (c'.heap.pool k).Exhausted size n := by
  induction fuel with
  | zero =>
    intro c _ h
    cases h
  | succ fuel ih =>
    intro c hc h
    rw [Call.rounds] at h
    rcases hc.round hk 0 with ⟨r, c1, h1, -⟩ | ⟨c1, h1, h2⟩
    · rw [h1] at h
      cases h
      exact hc.round_exhausted hk h1
    · rw [h1] at h
      exact ih h2 h

/-- **A pool that is reported as exhausted is exhausted.** -/
theorem allocate_exhausted (hc : c.Keeps W claimed pending) (hk : W.Busy k)
    (h : c.allocate k = (.error (.error (.poolExhausted size n)), c')) : (c'.heap.pool k).Exhausted size n :=
  rounds_exhausted hk _ hc h

end Keeps

end Call

end BlockHeap
