import BlockHeap.Proofs.Heap.Sound

/-!
# Blocks in a sound heap do not meet

The addresses of a block are its `span`. In a sound heap the span of a block lies among the blocks of an arena of its
pool (`Sound.exists_arena`) or in a mapping of its own, and

- two blocks share no address (`Sound.disjoint_of_pair`);
- a block shares none with the region of an arena, unless it is one of its blocks (`Sound.disjoint_region`), so it never
  meets the words of a free map (`Sound.disjoint_words`);
- a block shares none with the handle behind any block (`Sound.disjoint_handle`);
- blocks are aligned to their size, up to a page (`Sound.aligned`).
-/

namespace BlockHeap.Heap

/-- The addresses of a block: as many as a block of its pool has, or as many as were asked for. -/
def span (h : Heap) (b : Block) : Mapping :=
  ⟨b.address, match b.pool with
    | some k => (h.pool k).blockSize
    | none => b.bytes⟩

variable {h : Heap} {k i : Nat} {r : Resident Arena} {b c : Block} {blocks : Multiset Block}
  {claimed : Nat → List Nat} {pending : Multiset Mapping}

theorem span_some (hb : b.pool = some k) : (h.span b).stop = b.address + (h.pool k).blockSize := by
  simp [span, Mapping.stop, hb]

theorem span_none (hb : b.pool = none) : (h.span b).stop = b.address + b.bytes := by
  simp [span, Mapping.stop, hb]

/-- The arena of a block, and its number there. -/
theorem Sound.exists_block (hs : h.Sound blocks claimed pending) (hb : b ∈ blocks) (hk : b.pool = some k) :
    ∃ i r j, (h.pool k).slot? i = some r ∧ j < r.value.blockCount ∧ b.address = r.value.address j := by
  obtain ⟨i, r, j, hi, hj, hjb⟩ := Pool.exists_of_held (hs.held_mem hb hk)
  obtain ⟨-, g, hg⟩ := (hs.pools k).arenas r (Pool.mem_arenas.mpr ⟨i, hi⟩)
  exact ⟨i, r, j, hi, hg.lt_blockCount hj, hjb.symm⟩

/-- **A block from a pool** lies among the blocks of one of the pool's arenas. -/
theorem Sound.exists_arena (hs : h.Sound blocks claimed pending) (hb : b ∈ blocks) (hk : b.pool = some k) :
    ∃ i r, i < (h.pool k).count ∧ (h.pool k).slot? i = some r ∧ r.value.base ≤ b.address ∧
      (h.span b).stop ≤ r.value.base + r.value.usable := by
  obtain ⟨i, r, j, hi, hj, hjb⟩ := hs.exists_block hb hk
  obtain ⟨hsize, g, hg⟩ := (hs.pools k).arenas r (Pool.mem_arenas.mpr ⟨i, hi⟩)
  refine ⟨i, r, (hs.pools k).slots.lt_of_isSome i (by rw [hi]; rfl), hi, ?_, ?_⟩
  · rw [hjb]
    exact Nat.le_add_right _ _
  · rw [span_some hk, hjb, ← hsize]
    exact hg.address_add_le hj

theorem region_mem (hi : (h.pool k).slot? i = some r) : r.value.region ∈ h.mappings :=
  Multiset.mem_of_le (mappings_le h k) (Pool.region_mem_mappings (Pool.mem_arenas.mpr ⟨i, hi⟩))

/-- Mappings of arenas and mappings of blocks are in place. -/
theorem Sound.live_of_mem (hs : h.Sound blocks claimed pending) {m : Mapping}
    (hm : m ∈ h.mappings ∨ m ∈ blocks.bind Block.own) : m ∈ h.os.space.live := by
  rw [← Multiset.mem_coe, hs.mapped]
  simp only [Multiset.mem_add]
  exact .inl hm

theorem mapping_mem_own (hb : b ∈ blocks) (hp : b.pool = none) : b.mapping ∈ blocks.bind Block.own :=
  Multiset.mem_bind.mpr ⟨b, hb, by simp [Block.own_none hp]⟩

/-- The regions of arenas in different slots are disjoint, whichever pools they belong to. -/
theorem Sound.disjoint_regions (hs : h.Sound blocks claimed pending) {l j : Nat} {s : Resident Arena}
    (hi : (h.pool k).slot? i = some r) (hj : (h.pool l).slot? j = some s) (hne : k ≠ l ∨ i ≠ j) :
    r.value.region.Disjoint s.value.region := by
  by_cases hkl : k = l
  · subst hkl
    exact hs.apart_pool k _ _
      (Pool.regions_le_mappings (Pool.pair_le_arenas hi hj (hne.resolve_left (fun e => e rfl))))
  · have hlt : ∀ {n m t}, (h.pool n).slot? m = some t → n < h.pools.size := by
      intro n m t ht
      have := (hs.pools n).slots.lt_of_isSome m (by rw [ht]; rfl)
      exact lt_size (Nat.zero_lt_of_lt (Nat.lt_of_lt_of_le this (hs.pools n).slots.count_le))
    obtain ⟨rest, h1, -, h2⟩ := poolSet_eq_cons (hlt hi)
    have hmem := h2 l (fun e => hkl e.symm) (hlt hj)
    refine hs.apart _ _ ?_
    rw [mappings, h1, Multiset.cons_bind, ← Multiset.singleton_add, add_assoc, add_assoc]
    refine add_le_add (Multiset.singleton_le.mpr (Pool.region_mem_mappings (Pool.mem_arenas.mpr ⟨i, hi⟩))) ?_
    refine Multiset.singleton_le.mpr (Multiset.mem_add.mpr (.inl ?_))
    exact Multiset.mem_bind.mpr ⟨_, hmem, Pool.region_mem_mappings (Pool.mem_arenas.mpr ⟨j, hj⟩)⟩

/-- The mapping of a block and the region of an arena are disjoint. -/
theorem Sound.disjoint_mapping_region (hs : h.Sound blocks claimed pending) (hb : b ∈ blocks) (hp : b.pool = none)
    (hi : (h.pool k).slot? i = some r) : r.value.region.Disjoint b.mapping := by
  refine hs.apart _ _ ?_
  rw [← Multiset.singleton_add, add_assoc]
  exact add_le_add (Multiset.singleton_le.mpr (region_mem hi))
    (Multiset.singleton_le.mpr (Multiset.mem_add.mpr (.inl (mapping_mem_own hb hp))))

/-- A block with a mapping of its own lies there. -/
theorem Sound.span_within (hs : h.Sound blocks claimed pending) (hb : b ∈ blocks) (hp : b.pool = none) :
    (h.span b).Within b.mapping := by
  obtain ⟨offset, -, h1, h2⟩ := (hs.housed b hb hp).stop_le
  refine ⟨Nat.le_refl _, ?_⟩
  rw [span_none hp]
  omega

/-- A block from a pool lies in the region of one of the pool's arenas. -/
theorem Sound.exists_region (hs : h.Sound blocks claimed pending) (hb : b ∈ blocks) (hk : b.pool = some k) :
    ∃ i r, (h.pool k).slot? i = some r ∧ (h.span b).Within r.value.area ∧ (h.span b).Within r.value.region := by
  obtain ⟨i, r, -, hi, hbase, hstop⟩ := hs.exists_arena hb hk
  obtain ⟨-, g, hg⟩ := (hs.pools k).arenas r (Pool.mem_arenas.mpr ⟨i, hi⟩)
  have harea : (h.span b).Within r.value.area := ⟨hbase, hstop⟩
  exact ⟨i, r, hi, harea, harea.trans hg.area_within⟩

/-- **A block and the region of an arena**: it is a block of the arena, or there is no common address. -/
theorem Sound.disjoint_region (hs : h.Sound blocks claimed pending) (hb : b ∈ blocks)
    (hi : (h.pool k).slot? i = some r) :
    (b.pool = some k ∧ (h.span b).Within r.value.area) ∨ (h.span b).Disjoint r.value.region := by
  cases hp : b.pool with
  | none =>
    have hdisjoint := hs.disjoint_mapping_region hb hp hi
    exact .inr (hdisjoint.symm.within (hs.span_within hb hp) (.refl _))
  | some l =>
    obtain ⟨j, s, hj, harea, hregion⟩ := hs.exists_region hb hp
    by_cases hsame : k = l ∧ i = j
    · obtain ⟨rfl, rfl⟩ := hsame
      rw [hi] at hj
      cases hj
      exact .inl ⟨rfl, harea⟩
    · have hdisjoint := hs.disjoint_regions hi hj (by omega)
      exact .inr (hdisjoint.symm.within hregion (.refl _))

/-- The blocks in use whose pool is a given one have different addresses. -/
theorem Sound.address_ne (hs : h.Sound blocks claimed pending) (hbc : b ::ₘ {c} ≤ blocks) (hb : b.pool = some k)
    (hc : c.pool = some k) : b.address ≠ c.address := by
  obtain ⟨rest, rfl⟩ := Multiset.le_iff_exists_add.mp hbc
  have hnodup := hs.addresses_nodup k
  rw [Multiset.cons_add, Multiset.singleton_add, Block.addresses_cons_self hb, Block.addresses_cons_self hc,
    Multiset.nodup_cons, Multiset.mem_cons, not_or] at hnodup
  exact hnodup.1.1

/-- A block shares no address with the mapping of another one. -/
theorem Sound.disjoint_mapping (hs : h.Sound blocks claimed pending) (hbc : b ::ₘ {c} ≤ blocks)
    (hc : c.pool = none) : (h.span b).Disjoint c.mapping := by
  have hb : b ∈ blocks := Multiset.mem_of_le hbc (Multiset.mem_cons_self _ _)
  have hcmem : c ∈ blocks := Multiset.mem_of_le hbc (by simp)
  cases hp : b.pool with
  | none =>
    obtain ⟨rest, rfl⟩ := Multiset.le_iff_exists_add.mp hbc
    have hdisjoint : b.mapping.Disjoint c.mapping := by
      refine hs.apart _ _ ?_
      rw [Multiset.cons_add, Multiset.singleton_add, Multiset.cons_bind, Multiset.cons_bind, Block.own_none hp,
        Block.own_none hc, ← Multiset.singleton_add]
      calc {b.mapping} + {c.mapping} ≤ ({b.mapping} + {c.mapping}) + (h.mappings + rest.bind Block.own + pending) :=
            Multiset.le_add_right _ _
        _ = h.mappings + ({b.mapping} + ({c.mapping} + rest.bind Block.own)) + pending := by abel
    exact hdisjoint.within (hs.span_within hb hp) (.refl _)
  | some k =>
    obtain ⟨i, r, hi, -, hregion⟩ := hs.exists_region hb hp
    exact (hs.disjoint_mapping_region hcmem hc hi).within hregion (.refl _)

/-- **Two blocks share no address.** -/
theorem Sound.disjoint_of_pair (hs : h.Sound blocks claimed pending) (hbc : b ::ₘ {c} ≤ blocks) :
    (h.span b).Disjoint (h.span c) := by
  have hb : b ∈ blocks := Multiset.mem_of_le hbc (Multiset.mem_cons_self _ _)
  have hc : c ∈ blocks := Multiset.mem_of_le hbc (by simp)
  cases hp : c.pool with
  | none => exact (hs.disjoint_mapping hbc hp).within (.refl _) (hs.span_within hc hp)
  | some k =>
    by_cases hpb : b.pool = some k
    · have hne := hs.address_ne hbc hpb hp
      have hdisjoint := (hs.pools k).disjoint_of_held (hs.apart_pool k) (hs.held_mem hb hpb) (hs.held_mem hc hp) hne
      unfold Mapping.Disjoint
      rw [span_some hpb, span_some hp]
      exact hdisjoint
    · obtain ⟨i, r, hi, -, hregion⟩ := hs.exists_region hc hp
      have hdisjoint := (hs.disjoint_region hb hi).resolve_left fun hmem => hpb hmem.1
      exact hdisjoint.within (.refl _) hregion

/-- **A block never meets the words of a free map.** -/
theorem Sound.disjoint_words (hs : h.Sound blocks claimed pending) (hb : b ∈ blocks)
    (hi : (h.pool k).slot? i = some r) : ∃ g, Arena.Geometry.ofBlockSize r.value.blockSize = .ok g ∧
      (h.span b).Disjoint ⟨r.value.base + g.mapOffset, g.shape.bytes⟩ := by
  obtain ⟨-, g, hg⟩ := (hs.pools k).arenas r (Pool.mem_arenas.mpr ⟨i, hi⟩)
  refine ⟨g, hg.geometry, ?_⟩
  have husable : r.value.usable ≤ g.mapOffset := hg.usable ▸ hg.fits.usable_le
  rcases hs.disjoint_region hb hi with ⟨-, -, hstop⟩ | hdisjoint
  · exact .inl (Nat.le_trans hstop (Nat.add_le_add_left husable _))
  · refine hdisjoint.within (.refl _) ⟨Nat.le_add_right _ _, ?_⟩
    have hend := hg.fits.mapOffset_add
    have hlen := hg.region_len
    unfold Mapping.stop Arena.base
    dsimp only
    omega

/-- **A block never meets a handle.** -/
theorem Sound.disjoint_handle (hs : h.Sound blocks claimed pending) (hb : b ∈ blocks) (hc : c ∈ blocks)
    (hp : c.pool = none) : ∃ offset, Oversized.handleOffset? c.bytes = some offset ∧
      (h.span b).Disjoint ⟨c.address + offset, Oversized.handleBytes⟩ ∧
      h.memory.read? (c.address + offset) = some (.handle c.mapping) := by
  obtain ⟨offset, h1, -, h2⟩ := hs.housed c hc hp
  obtain ⟨offset', h3, h4, h5⟩ := (hs.housed c hc hp).stop_le
  obtain rfl : offset = offset' := Option.some.inj (h1.symm.trans h3)
  refine ⟨offset, h1, ?_, h2.read?⟩
  by_cases hbc : b = c
  · subst hbc
    refine .inl ?_
    rw [span_none hp]
    exact Nat.add_le_add_left h4 _
  · have hmem : c ∈ blocks.erase b := (Multiset.mem_erase_of_ne (fun e => hbc e.symm)).mpr hc
    have hle : b ::ₘ {c} ≤ blocks := by
      rw [← Multiset.cons_erase hb]
      exact Multiset.cons_le_cons _ (Multiset.singleton_le.mpr hmem)
    exact (hs.disjoint_mapping hle hp).within (.refl _) ⟨Nat.le_add_right _ _, h5⟩

/-- The least of two powers of two divides both. -/
theorem min_pow_dvd (m n : Nat) : min (2 ^ m) (2 ^ n) ∣ 2 ^ m ∧ min (2 ^ m) (2 ^ n) ∣ 2 ^ n := by
  rcases Nat.le_total m n with hmn | hmn
  · rw [Nat.min_eq_left (Nat.pow_le_pow_right (by decide) hmn)]
    exact ⟨Nat.dvd_refl _, Nat.pow_dvd_pow 2 hmn⟩
  · rw [Nat.min_eq_right (Nat.pow_le_pow_right (by decide) hmn)]
    exact ⟨Nat.pow_dvd_pow 2 hmn, Nat.dvd_refl _⟩

/-- **Blocks from a pool are aligned** to their size, up to a page. -/
theorem Sound.aligned (hs : h.Sound blocks claimed pending) (hb : b ∈ blocks) (hk : b.pool = some k) :
    min (h.pool k).blockSize pageSize ∣ b.address := by
  obtain ⟨i, r, j, hi, hj, hjb⟩ := hs.exists_block hb hk
  obtain ⟨hsize, g, hg⟩ := (hs.pools k).arenas r (Pool.mem_arenas.mpr ⟨i, hi⟩)
  obtain ⟨e, he⟩ := hg.fits.blockSize_pow
  rw [(Arena.Geometry.ofBlockSize_fits hg.geometry).1, hsize] at he
  obtain ⟨h1, h2⟩ := min_pow_dvd e 12
  have hpage : pageSize = 2 ^ 12 := rfl
  rw [hjb, Arena.address, hsize, he, hpage]
  refine Nat.dvd_add (Nat.dvd_trans h2 ?_) (Nat.dvd_trans h1 (Nat.dvd_mul_left _ _))
  exact (hs.os.fits _ (hs.live_of_mem (.inl (region_mem hi)))).aligned

/-- A block with a mapping of its own starts at a page. -/
theorem Sound.aligned_page (hs : h.Sound blocks claimed pending) (hb : b ∈ blocks) (hp : b.pool = none) :
    pageSize ∣ b.address :=
  (hs.os.fits _ (hs.live_of_mem (.inr (mapping_mem_own hb hp)))).aligned

end BlockHeap.Heap
