import BlockHeap.Proofs.Arena.Held
import BlockHeap.Proofs.Os.Space
import BlockHeap.Proofs.Pool.Slots
import Mathlib.Data.Multiset.Bind
import Mathlib.Data.Multiset.Pairwise

/-!
# The blocks of a pool

The blocks of a pool are those of its arenas, known by their addresses: `held` are those handed out, `grid` are all of
them, and `mappings` are the mappings in which the arenas lie and (`headers`) their data. In a *sound* pool the slots
are in order and the arenas are sound.

- Taking a block from existing arenas adds one to those held, or finds that there is none (`takeExisting_took`); it
  finds none only when all are held (`held_eq_grid_of_takeExisting`).
- Giving back a block that is held removes it from those held (`Sound.deallocate_spec`).
- Publishing an arena adds its blocks and its mappings (`Sound.publish_spec`).
- As long as the mappings are apart, no address is twice in the grid, and different blocks share no address
  (`Sound.grid_nodup`, `Sound.disjoint_of_held`).
-/

namespace BlockHeap

/-- The mappings of an arena: its region, and where its own data lie. -/
def Resident.mappings (r : Resident Arena) : Multiset Mapping := r.value.region ::ₘ {r.mapping}

namespace Pool

/-! ## The arenas of a pool -/

/-- The arenas, in no order. -/
def arenas (p : Pool) : Multiset (Resident Arena) := p.published

/-- The addresses of the blocks that are handed out. -/
def held (p : Pool) : Multiset Nat := p.arenas.bind (·.value.held)

/-- The addresses of all blocks. -/
def grid (p : Pool) : Multiset Nat := p.arenas.bind (·.value.grid)

/-- The mappings of all arenas. -/
def mappings (p : Pool) : Multiset Mapping := p.arenas.bind Resident.mappings

/-- The mappings in which the arenas' own data lie. -/
def headers (p : Pool) : Multiset Mapping := p.arenas.map (·.mapping)

variable {p q : Pool} {claimed : List Nat} {i n : Nat} {r : Resident Arena}

theorem slots_getElem? (p : Pool) (i : Nat) : p.slots.toList[i]?.join = p.slot? i := by
  unfold slot?
  split
  · rename_i hi
    simp [hi]
  · rename_i hi
    simp [Nat.le_of_not_lt hi]

theorem mem_arenas : r ∈ p.arenas ↔ ∃ i, p.slot? i = some r := by
  rw [arenas, Multiset.mem_coe, published, List.mem_filterMap]
  constructor
  · rintro ⟨x, hx, rfl⟩
    obtain ⟨i, hi⟩ := List.mem_iff_getElem?.mp hx
    exact ⟨i, by rw [← slots_getElem?, hi]; rfl⟩
  · rintro ⟨i, hi⟩
    rw [← slots_getElem?, Option.join_eq_some_iff] at hi
    exact ⟨some r, List.mem_of_getElem? hi, rfl⟩

/-- The arena in one slot and all the others. -/
theorem arenas_eq_cons (h : p.slot? i = some r) : ∃ rest, p.arenas = r ::ₘ rest ∧
    (∀ s, (p.putSlot i (some s)).arenas = s ::ₘ rest) ∧ ∀ j s, j ≠ i → p.slot? j = some s → s ∈ rest := by
  have hcap : i < capacity := lt_capacity (by rw [h]; rfl)
  have hlen : i < p.slots.toList.length := by simpa using hcap
  have hget : p.slots.toList[i] = some r := by
    rw [slot?, dif_pos hcap] at h
    simpa using h
  refine ⟨((p.slots.toList.eraseIdx i).filterMap id : List _), ?_, fun s => ?_, fun j s hj hs => ?_⟩
  · rw [arenas, published, ← Multiset.filterMap_coe, coe_eq_cons_eraseIdx hlen, hget,
      Multiset.filterMap_cons_some id (some r) _ rfl]
    rfl
  · have hlist : (p.putSlot i (some s)).slots.toList = p.slots.toList.set i (some s) := by
      simp [putSlot, Vector.toList]
    rw [arenas, published, hlist, ← Multiset.filterMap_coe, coe_set_eq_cons_eraseIdx hlen,
      Multiset.filterMap_cons_some id (some s) _ rfl]
    rfl
  · rw [Multiset.mem_coe, List.mem_filterMap]
    refine ⟨some s, List.mem_eraseIdx_iff_getElem?.mpr ⟨j, hj, ?_⟩, rfl⟩
    rw [← slots_getElem?, Option.join_eq_some_iff] at hs
    exact hs

/-- Filling an empty slot adds an arena. -/
theorem arenas_putSlot (hcap : i < capacity) (h : p.slot? i = none) (r : Resident Arena) :
    (p.putSlot i (some r)).arenas = r ::ₘ p.arenas := by
  have hlen : i < p.slots.toList.length := by simpa using hcap
  have hget : p.slots.toList[i] = none := by
    rw [slot?, dif_pos hcap] at h
    simpa using h
  have hlist : (p.putSlot i (some r)).slots.toList = p.slots.toList.set i (some r) := by
    simp [putSlot, Vector.toList]
  rw [arenas, arenas, published, published, hlist, ← Multiset.filterMap_coe, ← Multiset.filterMap_coe,
    coe_set_eq_cons_eraseIdx hlen, coe_eq_cons_eraseIdx hlen, hget, Multiset.filterMap_cons_some id (some r) _ rfl,
    Multiset.filterMap_cons_none _ _ rfl]

/-- The slots are in order, there can be arenas of the pool's block size, and the arenas are sound. -/
structure Sound (p : Pool) (claimed : List Nat) : Prop where
  slots : p.SlotsSound claimed
  geometry : 0 < p.maxArenas → ∃ g, Arena.Geometry.ofBlockSize p.blockSize = .ok g
  arenas : ∀ r ∈ p.arenas, r.value.blockSize = p.blockSize ∧ ∃ g, r.value.Sound g

/-- Nothing but the state of the blocks has changed. -/
structure Kept (p q : Pool) : Prop extends Steady p q where
  mappings : q.mappings = p.mappings
  headers : q.headers = p.headers
  grid : q.grid = p.grid

theorem Kept.refl (p : Pool) : p.Kept p := ⟨.refl p, rfl, rfl, rfl⟩

theorem Kept.trans {p q r : Pool} (h : p.Kept q) (h' : q.Kept r) : p.Kept r :=
  ⟨h.toSteady.trans h'.toSteady, h'.mappings.trans h.mappings, h'.headers.trans h.headers, h'.grid.trans h.grid⟩

/-- A pool without arenas is sound, and nothing is held. -/
theorem Sound.of_empty (hcount : p.count = 0) (hcurrent : p.current = 0) (hslot : ∀ i, p.slot? i = none)
    (hgeometry : 0 < p.maxArenas → ∃ g, Arena.Geometry.ofBlockSize p.blockSize = .ok g) :
    p.Sound [] ∧ p.arenas = 0 := by
  have harenas : p.arenas = 0 := by
    refine Multiset.eq_zero_of_forall_notMem fun r hr => ?_
    obtain ⟨i, hi⟩ := mem_arenas.mp hr
    rw [hslot i] at hi
    cases hi
  refine ⟨⟨.of_empty hcount hcurrent hslot, hgeometry, fun r hr => ?_⟩, harenas⟩
  rw [harenas] at hr
  cases hr

/-- **Working in one arena** of a pool. -/
theorem Sound.replace (h : p.Sound claimed) (hr : p.slot? i = some r) {a : Arena} {g : Arena.Geometry} (ha : a.Sound g)
    (halike : r.value.Alike a) :
    (p.putSlot i (some { r with value := a })).Sound claimed ∧ p.Kept (p.putSlot i (some { r with value := a })) ∧
      ∃ rest, p.held = r.value.held + rest ∧ (p.putSlot i (some { r with value := a })).held = a.held + rest := by
  obtain ⟨rest, h1, h2, -⟩ := arenas_eq_cons hr
  have hsteady : p.Steady (p.putSlot i (some { r with value := a })) := putSlot_steady (by rw [hr]; rfl) _
  have hold := h.arenas r (mem_arenas.mpr ⟨i, hr⟩)
  refine ⟨⟨h.slots.steady hsteady, h.geometry, fun s hs => ?_⟩, ⟨hsteady, ?_, ?_, ?_⟩, rest.bind (·.value.held), ?_, ?_⟩
  · rw [h2] at hs
    rcases Multiset.mem_cons.mp hs with rfl | hs
    · exact ⟨halike.blockSize.trans hold.1, g, ha⟩
    · exact h.arenas s (by rw [h1]; exact Multiset.mem_cons_of_mem hs)
  · rw [mappings, mappings, h1, h2, Multiset.cons_bind, Multiset.cons_bind, Resident.mappings, Resident.mappings,
      halike.region]
  · rw [headers, headers, h1, h2, Multiset.map_cons, Multiset.map_cons]
  · rw [grid, grid, h1, h2, Multiset.cons_bind, Multiset.cons_bind, halike.grid]
  · rw [held, h1, Multiset.cons_bind]
  · rw [held, h2, Multiset.cons_bind]

/-! ## Taking blocks -/

/-- What comes of an attempt to take a block from existing arenas: one more block is held, or there was none. -/
inductive Took (p : Pool) (claimed : List Nat) : Except Fault (Option Nat) × Pool → Prop where
  | block {x : Nat} {q : Pool} (hsound : q.Sound claimed) (hkept : p.Kept q) (hheld : q.held = x ::ₘ p.held) :
    Took p claimed (.ok (some x), q)
  | nothing {q : Pool} (hsound : q.Sound claimed) (hkept : p.Kept q) (hheld : q.held = p.held) :
    Took p claimed (.ok none, q)

theorem Took.kept {x : Except Fault (Option Nat) × Pool} (h : p.Took claimed x) : p.Kept x.2 := by
  cases h with
  | block _ hkept _ => exact hkept
  | nothing _ hkept _ => exact hkept

/-- A first attempt that found nothing and a second one are one attempt. -/
theorem Took.after (hkept : p.Kept q) (hheld : q.held = p.held) {x : Except Fault (Option Nat) × Pool}
    (h : q.Took claimed x) : p.Took claimed x := by
  cases h with
  | block h1 h2 h3 => exact .block h1 (hkept.trans h2) (h3.trans (congrArg _ hheld))
  | nothing h1 h2 h3 => exact .nothing h1 (hkept.trans h2) (h3.trans hheld)

theorem Sound.takeFrom_took (h : p.Sound claimed) (i : Nat) : p.Took claimed (p.takeFrom i) := by
  cases hs : p.slot? i with
  | none =>
    rw [takeFrom_none hs]
    exact .nothing h (.refl p) rfl
  | some r =>
    obtain ⟨-, g, hg⟩ := h.arenas r (mem_arenas.mpr ⟨i, hs⟩)
    rw [takeFrom_some hs]
    rcases hg.allocate_spec with ⟨j, a, h1, -, h3, h4, h5, h6⟩ | ⟨a, h1, -, h3, h4, h5⟩
    · obtain ⟨hsound, hkept, rest, k1, k2⟩ := h.replace hs h4 h6
      rw [h1]
      refine .block hsound hkept ?_
      rw [k2, k1, h6.held_insert h3 h5, Multiset.cons_add]
    · obtain ⟨hsound, hkept, rest, k1, k2⟩ := h.replace hs h3 h5
      rw [h1]
      refine .nothing hsound hkept ?_
      rw [k2, k1, h5.held_eq h4]

/-- Making a filled slot the current one changes no block. -/
theorem Sound.adopt (h : p.Sound claimed) (hi : (p.slot? i).isSome = true) :
    ({ p with current := i } : Pool).Sound claimed ∧ p.Kept { p with current := i } :=
  ⟨⟨h.slots.steady (adopt_steady hi), h.geometry, h.arenas⟩, adopt_steady hi, rfl, rfl, rfl⟩

theorem takeFromOthers_took (n : Nat) :
    ∀ {p : Pool} {i : Nat}, p.Sound claimed → p.Took claimed (p.takeFromOthers i n) := by
  induction n with
  | zero =>
    intro p i h
    exact .nothing h (.refl p) rfl
  | succ n ih =>
    intro p i h
    rw [takeFromOthers]
    split
    · exact ih h
    · have htook := h.takeFrom_took i
      split
      · rename_i q hq
        rw [hq] at htook
        cases htook with
        | nothing h1 h2 h3 => exact (ih h1).after h2 h3
      · rename_i x q hq
        rw [hq] at htook
        cases htook with
        | block h1 h2 h3 =>
          obtain ⟨k1, k2⟩ := h1.adopt (isSome_of_takeFrom hq)
          exact .block k1 (h2.trans k2) h3
      · rename_i f q hq
        rw [hq] at htook
        cases htook

/-- **Taking a block from existing arenas.** -/
theorem Sound.takeExisting_took (h : p.Sound claimed) (n : Nat) : p.Took claimed (p.takeExisting n) := by
  have htook := h.takeFrom_took p.current
  rw [takeExisting]
  split
  · rename_i q hq
    rw [hq] at htook
    cases htook with
    | nothing h1 h2 h3 => exact (takeFromOthers_took n h1).after h2 h3
  · exact htook

/-- If no block is found below slot `n` and all arenas are there, all blocks are held. -/
theorem Sound.held_eq_grid_of_takeExisting (h : p.Sound claimed) (hn : p.count ≤ n)
    (hnone : (p.takeExisting n).1 = .ok none) : p.held = p.grid := by
  refine Multiset.bind_congr fun r hr => ?_
  obtain ⟨i, hi⟩ := mem_arenas.mp hr
  obtain ⟨-, g, hg⟩ := h.arenas r hr
  have hlt := h.slots.lt_of_isSome i (by rw [hi]; rfl)
  have hfull := allocate_of_takeExisting hnone (Nat.lt_of_lt_of_le hlt hn) hi
  rcases hg.allocate_spec with ⟨j, a, h1, -⟩ | ⟨a, -, h2, -⟩
  · rw [h1] at hfull
    cases hfull
  · exact Arena.held_of_full h2

/-! ## Where blocks are -/

theorem Sound.held_le_grid (h : p.Sound claimed) : p.held ≤ p.grid := by
  have hle : ∀ s : Multiset (Resident Arena), (∀ r ∈ s, ∃ g, r.value.Sound g) →
      s.bind (·.value.held) ≤ s.bind (·.value.grid) := by
    intro s
    induction s using Multiset.induction with
    | empty =>
      intro _
      exact le_rfl
    | cons r s ih =>
      intro hs
      obtain ⟨g, hg⟩ := hs r (Multiset.mem_cons_self r s)
      rw [Multiset.cons_bind, Multiset.cons_bind]
      exact add_le_add hg.held_le_grid (ih fun r hr => hs r (Multiset.mem_cons_of_mem hr))
  exact hle _ fun r hr => (h.arenas r hr).2

/-- A block that is held is a taken block of an arena. -/
theorem exists_of_held {x : Nat} (hx : x ∈ p.held) :
    ∃ i r j, p.slot? i = some r ∧ j ∈ r.value.taken ∧ r.value.address j = x := by
  obtain ⟨r, hr, hxr⟩ := Multiset.mem_bind.mp hx
  obtain ⟨i, hi⟩ := mem_arenas.mp hr
  obtain ⟨j, hj, hjx⟩ := Arena.Sound.mem_held.mp hxr
  exact ⟨i, r, j, hi, hj, hjx⟩

/-- A pool with blocks may have arenas. -/
theorem Sound.limit_pos (h : p.Sound claimed) {x : Nat} (hx : x ∈ p.held) : 0 < p.maxArenas := by
  obtain ⟨i, r, -, hi, -⟩ := exists_of_held hx
  have hlt := h.slots.lt_of_isSome i (by rw [hi]; rfl)
  have hle := h.slots.count_le
  omega

theorem region_mem_mappings (h : r ∈ p.arenas) : r.value.region ∈ p.mappings :=
  Multiset.mem_bind.mpr ⟨r, h, Multiset.mem_cons_self _ _⟩

/-- The regions of two arenas are among the mappings. -/
theorem regions_le_mappings {s : Resident Arena} (h : r ::ₘ {s} ≤ p.arenas) :
    r.value.region ::ₘ {s.value.region} ≤ p.mappings := by
  obtain ⟨rest, hrest⟩ := Multiset.le_iff_exists_add.mp h
  rw [mappings, hrest, Multiset.add_bind, Multiset.cons_bind, Multiset.singleton_bind, Resident.mappings,
    Resident.mappings, Multiset.cons_add, Multiset.cons_add]
  refine Multiset.cons_le_cons _ (Multiset.singleton_le.mpr ?_)
  simp

/-- The arenas in two different slots. -/
theorem pair_le_arenas {j : Nat} {s : Resident Arena} (hr : p.slot? i = some r) (hs : p.slot? j = some s)
    (hij : i ≠ j) : r ::ₘ {s} ≤ p.arenas := by
  obtain ⟨rest, h1, -, h2⟩ := arenas_eq_cons hr
  rw [h1]
  exact Multiset.cons_le_cons _ (Multiset.singleton_le.mpr (h2 j s hij.symm hs))

/-- The blocks of two arenas share no address. -/
theorem Sound.disjoint_areas (h : p.Sound claimed) (hapart : Mapping.Apart p.mappings) {s : Resident Arena}
    (hle : r ::ₘ {s} ≤ p.arenas) : r.value.area.Disjoint s.value.area := by
  obtain ⟨-, g, hg⟩ := h.arenas r (Multiset.mem_of_le hle (Multiset.mem_cons_self _ _))
  obtain ⟨-, g', hg'⟩ := h.arenas s (Multiset.mem_of_le hle (by simp))
  exact (hapart _ _ (regions_le_mappings hle)).within hg.area_within hg'.area_within

/-- **The grid has no address twice**, as long as the mappings are apart. -/
theorem Sound.grid_nodup (h : p.Sound claimed) (hapart : Mapping.Apart p.mappings) : p.grid.Nodup := by
  refine Multiset.nodup_bind.mpr ⟨fun r hr => ?_, p.published, rfl, List.pairwise_iff_forall_sublist.mpr ?_⟩
  · obtain ⟨-, g, hg⟩ := h.arenas r hr
    exact hg.grid_nodup
  · intro r s hsub
    have hle : r ::ₘ {s} ≤ p.arenas := Multiset.coe_le.mpr hsub.subperm
    obtain ⟨-, g, hg⟩ := h.arenas r (Multiset.mem_of_le hle (Multiset.mem_cons_self _ _))
    obtain ⟨-, g', hg'⟩ := h.arenas s (Multiset.mem_of_le hle (by simp))
    refine Multiset.disjoint_left.mpr ?_
    intro x hx hx'
    obtain ⟨i, hi, rfl⟩ := Multiset.mem_map.mp hx
    obtain ⟨j, hj, hij⟩ := Multiset.mem_map.mp hx'
    have hdisjoint := (h.disjoint_areas hapart hle).within (hg.block_within (Multiset.mem_range.mp hi))
      (hg'.block_within (Multiset.mem_range.mp hj))
    have hpos := hg.blockSize_pos
    have hpos' := hg'.blockSize_pos
    unfold Mapping.Disjoint Mapping.stop at hdisjoint
    dsimp only at hdisjoint
    omega

/-- The block of two arenas, or two blocks of one. -/
theorem Sound.disjoint_of_held (h : p.Sound claimed) (hapart : Mapping.Apart p.mappings) {x y : Nat} (hx : x ∈ p.held)
    (hy : y ∈ p.held) (hxy : x ≠ y) : x + p.blockSize ≤ y ∨ y + p.blockSize ≤ x := by
  obtain ⟨i, r, m, hi, hm, rfl⟩ := exists_of_held hx
  obtain ⟨j, s, n, hj, hn, rfl⟩ := exists_of_held hy
  obtain ⟨hsize, g, hg⟩ := h.arenas r (mem_arenas.mpr ⟨i, hi⟩)
  obtain ⟨hsize', g', hg'⟩ := h.arenas s (mem_arenas.mpr ⟨j, hj⟩)
  by_cases hij : i = j
  · subst hij
    rw [hi] at hj
    cases hj
    rw [← hsize]
    rcases Nat.lt_trichotomy m n with hmn | rfl | hmn
    · exact .inl (Arena.Sound.address_add_le_address hmn)
    · exact absurd rfl hxy
    · exact .inr (Arena.Sound.address_add_le_address hmn)
  · have hdisjoint := (h.disjoint_areas hapart (pair_le_arenas hi hj hij)).within
      (hg.block_within (hg.lt_blockCount hm)) (hg'.block_within (hg'.lt_blockCount hn))
    rwa [hsize, hsize'] at hdisjoint

/-! ## Giving blocks back -/

/-- The owner of an address is the arena that has it among its blocks. -/
theorem Sound.owner?_of_owns (h : p.Sound claimed) (hapart : Mapping.Apart p.mappings) (hi : p.slot? i = some r)
    {x : Nat} (howns : r.value.owns x = true) : p.owner? x = some i := by
  obtain ⟨-, g, hg⟩ := h.arenas r (mem_arenas.mpr ⟨i, hi⟩)
  obtain ⟨k, hk⟩ := Option.isSome_iff_exists.mp
    (owner?_isSome (h.slots.lt_of_isSome i (by rw [hi]; rfl)) hi howns)
  obtain ⟨-, -, s, hs, howns'⟩ := of_ownerFrom _ hk
  obtain ⟨-, g', hg'⟩ := h.arenas s (mem_arenas.mpr ⟨k, hs⟩)
  by_cases hik : i = k
  · rw [hk, hik]
  · -- the address would be in two arenas
    have hdisjoint := h.disjoint_areas hapart (pair_le_arenas hi hs hik)
    have h1 := (hg.owns_iff _).mp howns
    have h2 := (hg'.owns_iff _).mp howns'
    unfold Mapping.Disjoint Mapping.stop Arena.area at hdisjoint
    dsimp only at hdisjoint
    omega

/-- The owner of a block that is held is the arena that it is a block of. -/
theorem Sound.owner?_eq (h : p.Sound claimed) (hapart : Mapping.Apart p.mappings) {j : Nat} (hi : p.slot? i = some r)
    (hj : j ∈ r.value.taken) : p.owner? (r.value.address j) = some i := by
  obtain ⟨-, g, hg⟩ := h.arenas r (mem_arenas.mpr ⟨i, hi⟩)
  exact h.owner?_of_owns hapart hi (hg.owns_address (hg.lt_blockCount hj))

/-- **Giving back a block that is held.** -/
theorem Sound.deallocate_spec (h : p.Sound claimed) (hapart : Mapping.Apart p.mappings) {x : Nat} (hx : x ∈ p.held) :
    ∃ q, p.deallocate x = (.ok (), q) ∧ q.Sound claimed ∧ p.Kept q ∧ p.held = x ::ₘ q.held := by
  obtain ⟨i, r, j, hi, hj, rfl⟩ := exists_of_held hx
  obtain ⟨-, g, hg⟩ := h.arenas r (mem_arenas.mpr ⟨i, hi⟩)
  obtain ⟨a, h1, h2, h3, h4⟩ := hg.deallocate_spec hj
  obtain ⟨hsound, hkept, rest, k1, k2⟩ := h.replace hi h2 h4
  refine ⟨_, ?_, hsound, hkept, ?_⟩
  · rw [deallocate, h.owner?_eq hapart hi hj]
    simp only [onArena_some hi, h1]
  · rw [k1, k2, h4.held_erase hj h3, Multiset.cons_add]

/-! ## Slots -/

/-- Publishing an arena in a claimed slot adds it to the others. -/
theorem Sound.arenas_publish (h : p.Sound claimed) (hi : i ∈ claimed) (r : Resident Arena) :
    (p.publish i r).arenas = r ::ₘ p.arenas :=
  arenas_putSlot (h.slots.held_lt_capacity hi) (h.slots.slot_held i hi) r

/-- **Publishing a fresh arena** adds its blocks, none of which is held, and its mappings. -/
theorem Sound.publish_spec (h : p.Sound claimed) (hi : i ∈ claimed) {g : Arena.Geometry} (hr : r.value.Sound g)
    (hsize : r.value.blockSize = p.blockSize) (hempty : r.value.taken = ∅) :
    (p.publish i r).Sound (claimed.erase i) ∧ (p.publish i r).held = p.held ∧
      (p.publish i r).mappings = r.mappings + p.mappings ∧ (p.publish i r).grid = r.value.grid + p.grid := by
  have harenas := h.arenas_publish hi r
  refine ⟨⟨h.slots.publish hi r, h.geometry, fun s hs => ?_⟩, ?_, ?_, ?_⟩
  · rw [harenas] at hs
    rcases Multiset.mem_cons.mp hs with rfl | hs
    · exact ⟨hsize, g, hr⟩
    · exact h.arenas s hs
  · rw [held, harenas, Multiset.cons_bind, Arena.held_of_empty hempty, zero_add]
    rfl
  · rw [mappings, harenas, Multiset.cons_bind]
    rfl
  · rw [grid, harenas, Multiset.cons_bind]
    rfl

/-- Claiming the next slot changes no block. -/
theorem Sound.claim (h : p.Sound claimed) (hlt : p.count < p.maxArenas) :
    ({ p with count := p.count + 1 } : Pool).Sound (p.count :: claimed) :=
  ⟨h.slots.claim hlt, h.geometry, h.arenas⟩

theorem arenas_giveBack (p : Pool) (i : Nat) : (p.giveBack i).2.arenas = p.arenas := by
  unfold Pool.giveBack
  split <;> rfl

/-- Giving a slot back changes no block. -/
theorem Sound.giveBack (h : p.Sound claimed) (hi : i ∈ claimed) : (p.giveBack i).2.Sound (claimed.erase i) := by
  refine ⟨h.slots.giveBack hi, ?_, fun r hr => ?_⟩
  · have := h.geometry
    unfold Pool.giveBack
    split <;> exact this
  · rw [arenas_giveBack] at hr
    have := h.arenas r hr
    unfold Pool.giveBack
    split <;> exact this

end Pool

end BlockHeap
