import BlockHeap.Arena.Basic
import BlockHeap.Proofs.Arena.Geometry
import BlockHeap.Proofs.FreeMap.Exact
import BlockHeap.Proofs.Os.Space
import Mathlib.Data.Finset.Insert
import Mathlib.Data.Finset.SDiff

/-!
# The blocks of an arena

An arena is *sound* for a geometry when it is divided accordingly, its cursor stands at a block, and the free blocks lie
below the cursor. Its `taken` blocks are those below the cursor that are not free. `allocate` hands out a block that is
not taken, and finds none only when all are (`Sound.allocate_spec`); `deallocate` takes back any block that is taken
(`Sound.deallocate_spec`).
-/

namespace BlockHeap.Arena

/-- The number of blocks that were handed out for the first time. -/
def cursor (a : Arena) : Nat := a.bump / a.blockSize

/-- The blocks handed out and not given back. -/
def taken (a : Arena) : Finset Nat := Finset.range a.cursor \ a.free.freeSet

/-- Where a block starts. -/
def address (a : Arena) (i : Nat) : Nat := a.base + i * a.blockSize

/-- The part of the region that is for blocks. -/
def area (a : Arena) : Mapping := ⟨a.base, a.usable⟩

/-- The arena with its cursor one block further. -/
def advanced (a : Arena) : Arena := { a with bump := a.bump + a.blockSize }

/-- The two arenas differ in the state of their blocks only. -/
structure Alike (a b : Arena) : Prop where
  policy : b.policy = a.policy
  blockSize : b.blockSize = a.blockSize
  usable : b.usable = a.usable
  region : b.region = a.region
  blockCount : b.blockCount = a.blockCount

theorem Alike.of_eq {a b : Arena} (h : b = a) : a.Alike b := by
  subst h
  exact ⟨rfl, rfl, rfl, rfl, rfl⟩

theorem Alike.trans {a b c : Arena} (h : a.Alike b) (h' : b.Alike c) : a.Alike c :=
  ⟨h'.policy.trans h.policy, h'.blockSize.trans h.blockSize, h'.usable.trans h.usable, h'.region.trans h.region,
    h'.blockCount.trans h.blockCount⟩

theorem Alike.address {a b : Arena} (h : a.Alike b) (i : Nat) : b.address i = a.address i := by
  rw [Arena.address, Arena.address, base, base, h.region, h.blockSize]

/-- The arena is divided as the geometry says, and its cursor stands at a block. -/
structure Laid (a : Arena) (g : Geometry) : Prop where
  geometry : Geometry.ofBlockSize a.blockSize = .ok g
  usable : a.usable = g.usable
  blockCount : a.blockCount = g.blockCount
  region_len : a.region.len = regionBytes
  region_stop : a.region.stop ≤ Size.limit
  bump_eq : a.bump = a.cursor * a.blockSize
  cursor_le : a.cursor ≤ a.blockCount

/-- The arena is laid out, and its free blocks make sense. -/
structure Sound (a : Arena) (g : Geometry) : Prop extends Laid a g where
  exact : a.free.Exact
  lt_cursor : ∀ i ∈ a.free.freeSet, i < a.cursor

theorem Sound.mem_taken {a : Arena} {i : Nat} : i ∈ a.taken ↔ i < a.cursor ∧ i ∉ a.free.freeSet := by
  rw [taken, Finset.mem_sdiff, Finset.mem_range]

/-- Different blocks share no address. -/
theorem Sound.address_add_le_address {a : Arena} {i j : Nat} (hij : i < j) :
    a.address i + a.blockSize ≤ a.address j := by
  have hmul : (i + 1) * a.blockSize ≤ j * a.blockSize := Nat.mul_le_mul_right _ hij
  rw [Nat.add_mul, Nat.one_mul] at hmul
  unfold address
  omega

namespace Laid

variable {a : Arena} {g : Geometry}

theorem fits (h : a.Laid g) : g.Fits := (Geometry.ofBlockSize_fits h.geometry).2

theorem blockSize_pos (h : a.Laid g) : 0 < a.blockSize := by
  rw [← (Geometry.ofBlockSize_fits h.geometry).1]
  exact h.fits.blockSize_pos

theorem usable_eq (h : a.Laid g) : a.usable = a.blockCount * a.blockSize := by
  rw [h.usable, h.fits.usable_eq, h.blockCount, (Geometry.ofBlockSize_fits h.geometry).1]

theorem usable_le (h : a.Laid g) : a.usable ≤ a.region.len := by
  rw [h.usable, h.region_len]
  exact h.fits.usable_le_region

theorem area_within (h : a.Laid g) : a.area.Within a.region :=
  ⟨Nat.le_refl _, Nat.add_le_add_left h.usable_le _⟩

theorem lt_blockCount (h : a.Laid g) {i : Nat} (hi : i ∈ a.taken) : i < a.blockCount :=
  Nat.lt_of_lt_of_le (Sound.mem_taken.mp hi).1 h.cursor_le

/-- Different blocks start at different addresses. -/
theorem address_injective (h : a.Laid g) : Function.Injective a.address := by
  intro i j hij
  exact Nat.eq_of_mul_eq_mul_right h.blockSize_pos (Nat.add_left_cancel hij)

/-- A block lies in the part of the region that is for blocks. -/
theorem address_add_le (h : a.Laid g) {i : Nat} (hi : i < a.blockCount) :
    a.address i + a.blockSize ≤ a.base + a.usable := by
  have hmul : (i + 1) * a.blockSize ≤ a.blockCount * a.blockSize := Nat.mul_le_mul_right _ hi
  rw [← h.usable_eq, Nat.add_mul, Nat.one_mul] at hmul
  unfold address
  omega

theorem block_within (h : a.Laid g) {i : Nat} (hi : i < a.blockCount) :
    Mapping.Within ⟨a.address i, a.blockSize⟩ a.area :=
  ⟨Nat.le_add_right _ _, h.address_add_le hi⟩

/-- The addresses that an arena owns. -/
theorem owns_iff (h : a.Laid g) (p : Nat) : a.owns p = true ↔ a.base ≤ p ∧ p < a.base + a.usable := by
  have hle := h.usable_le
  have hstop := h.region_stop
  rw [owns, decide_eq_true_eq, Size.gap]
  unfold Mapping.stop at hstop
  unfold base
  split <;> omega

theorem owns_address (h : a.Laid g) {i : Nat} (hi : i < a.blockCount) : a.owns (a.address i) = true := by
  have hend := h.address_add_le hi
  have hpos := h.blockSize_pos
  refine (h.owns_iff _).mpr ⟨Nat.le_add_right _ _, ?_⟩
  omega

theorem blockAt_eq (h : a.Laid g) {i : Nat} (hi : i < a.blockCount) :
    a.blockAt (i * a.blockSize) = .ok (a.address i) := by
  have hlt : i * a.blockSize < a.usable := by
    rw [h.usable_eq]
    exact Nat.mul_lt_mul_of_pos_right hi h.blockSize_pos
  rw [blockAt, if_pos hlt]
  rfl

theorem bump_lt_iff (h : a.Laid g) : a.bump < a.usable ↔ a.cursor < a.blockCount := by
  rw [h.bump_eq, h.usable_eq]
  exact Nat.mul_lt_mul_right h.blockSize_pos

theorem cursor_advanced (h : a.Laid g) : a.advanced.cursor = a.cursor + 1 := Nat.add_div_right _ h.blockSize_pos

/-- An arena whose cursor has gone on by one block is laid out. -/
theorem advanced (h : a.Laid g) (hc : a.cursor < a.blockCount) : a.advanced.Laid g := by
  refine ⟨h.geometry, h.usable, h.blockCount, h.region_len, h.region_stop, ?_, ?_⟩
  · rw [h.cursor_advanced, Nat.add_mul, Nat.one_mul]
    exact congrArg (· + a.blockSize) h.bump_eq
  · rw [h.cursor_advanced]
    exact hc

/-- An arena with another free map for the same blocks is laid out. -/
theorem withFree (h : a.Laid g) {m : FreeMap} (hm : m.blockCount = a.blockCount) :
    ({ a with free := m } : Arena).Laid g := by
  refine ⟨h.geometry, h.usable, hm.trans h.blockCount, h.region_len, h.region_stop, h.bump_eq, ?_⟩
  change a.cursor ≤ m.blockCount
  rw [hm]
  exact h.cursor_le

/-- Giving back a block that exists is up to the free map. -/
theorem deallocate_eq (h : a.Laid g) {i : Nat} (hi : i < a.blockCount) :
    a.deallocate (a.address i) = ((a.free.release i).1, { a with free := (a.free.release i).2 }) := by
  have hoffset : a.address i - a.base = i * a.blockSize := Nat.add_sub_cancel_left _ _
  rw [deallocate, h.owns_address hi]
  simp only [hoffset, Nat.mul_mod_left, Nat.mul_div_cancel _ h.blockSize_pos]
  rfl

/-- While the cursor is not at the end, the block at the cursor is handed out. -/
theorem allocate_of_cursor_lt (h : a.Laid g) (hc : a.cursor < a.blockCount) :
    a.allocate = (.ok (some (a.address a.cursor)), a.advanced) := by
  have hblock := h.blockAt_eq hc
  rw [← h.bump_eq] at hblock
  rw [allocate, if_pos (h.bump_lt_iff.mpr hc), hblock]
  rfl

/-- With the cursor at the end, a block that is free is handed out. -/
theorem allocate_of_free (h : a.Laid g) (hm : a.free.Exact) (hc : a.cursor = a.blockCount)
    (hfree : a.free.freeSet.Nonempty) :
    ∃ i m, i ∈ a.free.freeSet ∧ a.allocate = (.ok (some (a.address i)), { a with free := m }) ∧ m.Exact ∧
      m.freeSet = a.free.freeSet.erase i ∧ a.free.Alike m := by
  obtain ⟨i, m, hclaim, -, hi, hm', hset, halike, -⟩ := FreeMap.claim_spec hm hfree
  refine ⟨i, m, hi, ?_, hm', hset, halike⟩
  have hlt : i < a.blockCount := hm.lt_blockCount i (FreeMap.mem_freeSet.mp hi)
  have hblock : ({ a with free := m } : Arena).blockAt (i * a.blockSize) = .ok (a.address i) := h.blockAt_eq hlt
  have hfull : ¬a.bump < a.usable := by
    rw [h.bump_lt_iff]
    omega
  rw [allocate, if_neg hfull]
  simp only [hclaim]
  rw [hblock]
  rfl

/-- With the cursor at the end and no free block, there is none to hand out. -/
theorem allocate_of_full (h : a.Laid g) (hm : a.free.Exact) (hc : a.cursor = a.blockCount)
    (hfree : a.free.freeSet = ∅) : a.allocate = (.ok none, { a with free := a.free.searched }) := by
  have hfull : ¬a.bump < a.usable := by
    rw [h.bump_lt_iff]
    omega
  rw [allocate, if_neg hfull]
  simp only [FreeMap.claim_of_empty hm hfree]

/-- An arena says that it is full when the cursor is at the end and no block is free. -/
theorem isFull_iff (h : a.Laid g) (hm : a.free.Exact) :
    a.isFull = true ↔ a.cursor = a.blockCount ∧ a.free.freeSet = ∅ := by
  have hle := h.cursor_le
  have hbump : a.usable ≤ a.bump ↔ a.cursor = a.blockCount := by
    rw [← Nat.not_lt, h.bump_lt_iff]
    omega
  rw [isFull, Bool.and_eq_true, decide_eq_true_eq, hbump, Bool.not_eq_true', ← Bool.not_eq_true, hm.hasFree_iff,
    Finset.not_nonempty_iff_eq_empty]

end Laid

namespace Sound

variable {a : Arena} {g : Geometry}

/-! ## Taking blocks -/

theorem alike_advanced (a : Arena) : a.Alike a.advanced := ⟨rfl, rfl, rfl, rfl, rfl⟩

/-- An arena whose cursor has gone on by one block. -/
theorem advance (h : a.Sound g) (hc : a.cursor < a.blockCount) :
    a.advanced.Sound g ∧ a.advanced.taken = insert a.cursor a.taken := by
  constructor
  · refine ⟨h.toLaid.advanced hc, h.exact, fun i hi => ?_⟩
    rw [h.cursor_advanced]
    exact Nat.lt_succ_of_lt (h.lt_cursor i hi)
  · have hnot : a.cursor ∉ a.free.freeSet := fun hmem => Nat.lt_irrefl _ (h.lt_cursor _ hmem)
    ext i
    rw [Finset.mem_insert, mem_taken, mem_taken, h.cursor_advanced]
    constructor
    · rintro ⟨hlt, hfree⟩
      rcases Nat.lt_succ_iff_lt_or_eq.mp hlt with hlt | rfl
      · exact .inr ⟨hlt, hfree⟩
      · exact .inl rfl
    · rintro (rfl | ⟨hlt, hfree⟩)
      · exact ⟨Nat.lt_succ_self _, hnot⟩
      · exact ⟨Nat.lt_succ_of_lt hlt, hfree⟩

/-- An arena whose free map was searched, or had a block taken from it or given back to it. -/
theorem withFree (h : a.Sound g) {m : FreeMap} (hm : m.Exact) (halike : a.free.Alike m)
    (hlt : ∀ i ∈ m.freeSet, i < a.cursor) : ({ a with free := m } : Arena).Sound g ∧ a.Alike { a with free := m } := by
  exact ⟨⟨h.toLaid.withFree halike.blockCount, hm, hlt⟩, rfl, rfl, rfl, rfl, halike.blockCount⟩

/-- With the cursor at the end, a block that was given back is handed out again. -/
theorem allocate_of_free (h : a.Sound g) (hc : a.cursor = a.blockCount) (hfree : a.free.freeSet.Nonempty) :
    ∃ i m, i ∈ a.free.freeSet ∧ a.allocate = (.ok (some (a.address i)), { a with free := m }) ∧
      m.freeSet = a.free.freeSet.erase i ∧ ({ a with free := m } : Arena).Sound g ∧ a.Alike { a with free := m } := by
  obtain ⟨i, m, hi, halloc, hm, hset, halike⟩ := h.toLaid.allocate_of_free h.exact hc hfree
  have hlt : ∀ j ∈ m.freeSet, j < a.cursor := by
    intro j hj
    rw [hset] at hj
    exact h.lt_cursor j (Finset.mem_of_mem_erase hj)
  exact ⟨i, m, hi, halloc, hset, h.withFree hm halike hlt⟩

/-- A block that is not free any more is taken. -/
theorem taken_erase (h : a.Sound g) {m : FreeMap} {i : Nat} (hi : i ∈ a.free.freeSet)
    (hset : m.freeSet = a.free.freeSet.erase i) : ({ a with free := m } : Arena).taken = insert i a.taken := by
  ext j
  rw [Finset.mem_insert, mem_taken, mem_taken, hset, Finset.mem_erase]
  constructor
  · rintro ⟨hj, hne⟩
    by_cases hij : j = i
    · exact .inl hij
    · exact .inr ⟨hj, fun hmem => hne ⟨hij, hmem⟩⟩
  · rintro (rfl | ⟨hj, hne⟩)
    · exact ⟨h.lt_cursor _ hi, fun hmem => hmem.1 rfl⟩
    · exact ⟨hj, fun hmem => hne hmem.2⟩

/-- **Allocation**: a block that was not taken is handed out, or all blocks are taken. -/
theorem allocate_spec (h : a.Sound g) :
    (∃ i a', a.allocate = (.ok (some (a.address i)), a') ∧ i < a.blockCount ∧ i ∉ a.taken ∧ a'.Sound g ∧
      a'.taken = insert i a.taken ∧ a.Alike a') ∨
    (∃ a', a.allocate = (.ok none, a') ∧ a.taken = Finset.range a.blockCount ∧ a'.Sound g ∧ a'.taken = a.taken ∧
      a.Alike a') := by
  rcases Nat.lt_or_eq_of_le h.cursor_le with hc | hc
  · obtain ⟨h1, h2⟩ := h.advance hc
    exact .inl ⟨a.cursor, a.advanced, h.allocate_of_cursor_lt hc, hc,
      fun hmem => Nat.lt_irrefl _ (mem_taken.mp hmem).1, h1, h2, alike_advanced a⟩
  · rcases a.free.freeSet.eq_empty_or_nonempty with hfree | hfree
    · obtain ⟨h1, h2⟩ := h.withFree h.exact.searched ⟨rfl, rfl⟩ h.lt_cursor
      refine .inr ⟨_, h.toLaid.allocate_of_full h.exact hc hfree, ?_, h1, rfl, h2⟩
      rw [taken, hfree, Finset.sdiff_empty, hc]
    · obtain ⟨i, m, h1, h2, h3, h4, h5⟩ := h.allocate_of_free hc hfree
      exact .inl ⟨i, _, h2, hc ▸ h.lt_cursor i h1, fun hmem => (mem_taken.mp hmem).2 h1, h4, h.taken_erase h1 h3, h5⟩

/-! ## Giving blocks back -/

/-- A block that is taken becomes a free one. -/
theorem deallocate_of_taken (h : a.Sound g) {i : Nat} (hi : i ∈ a.taken) :
    ∃ m, a.deallocate (a.address i) = (.ok (), { a with free := m }) ∧ m.freeSet = insert i a.free.freeSet ∧
      m.searches = a.free.searches ∧ ({ a with free := m } : Arena).Sound g ∧ a.Alike { a with free := m } := by
  obtain ⟨hlt, hfree⟩ := mem_taken.mp hi
  have hcount := h.lt_blockCount hi
  obtain ⟨m, hrelease, hm, hset, halike, hsearches⟩ := FreeMap.release_spec h.exact hcount hfree
  have hlt' : ∀ j ∈ m.freeSet, j < a.cursor := by
    intro j hj
    rw [hset, Finset.mem_insert] at hj
    rcases hj with rfl | hj
    · exact hlt
    · exact h.lt_cursor j hj
  refine ⟨m, ?_, hset, hsearches, h.withFree hm halike hlt'⟩
  rw [h.deallocate_eq hcount, hrelease]

/-- A block that is free again is not taken. -/
theorem taken_insert {m : FreeMap} {i : Nat} (hset : m.freeSet = insert i a.free.freeSet) :
    ({ a with free := m } : Arena).taken = a.taken.erase i := by
  ext j
  rw [Finset.mem_erase, mem_taken, mem_taken, hset, Finset.mem_insert, not_or]
  exact ⟨fun ⟨h1, h2, h3⟩ => ⟨h2, h1, h3⟩, fun ⟨h1, h2, h3⟩ => ⟨h2, h1, h3⟩⟩

/-- **Deallocation**: a block that is taken can be given back. -/
theorem deallocate_spec (h : a.Sound g) {i : Nat} (hi : i ∈ a.taken) :
    ∃ a', a.deallocate (a.address i) = (.ok (), a') ∧ a'.Sound g ∧ a'.taken = a.taken.erase i ∧ a.Alike a' := by
  obtain ⟨m, h1, hset, -, h2, h3⟩ := h.deallocate_of_taken hi
  exact ⟨{ a with free := m }, h1, h2, taken_insert hset, h3⟩

end Sound

/-! ## Fresh arenas -/

/-- A fresh arena has its cursor at the start, and a free map in which nothing is free and nothing was searched. -/
theorem create_eq (policy : Policy) (region : Mapping) {g : Geometry} (h : g.Fits) :
    ∃ m, create policy g region = .ok ⟨policy, g.blockSize, g.usable, 0, m, region⟩ ∧ m.Exact ∧ m.freeSet = ∅ ∧
      m.blockCount = g.blockCount ∧ m.searches = 0 := by
  obtain ⟨m, hcreate, hm, hset, -, hcount, hsearches⟩ := FreeMap.create_spec h.blockCount_le
  refine ⟨m, ?_, hm, hset, hcount, hsearches⟩
  rw [create, hcreate]
  rfl

/-- A fresh arena hands out its first block. -/
theorem allocate_of_create {policy : Policy} {region : Mapping} {g : Geometry} {a : Arena} (hg : g.Fits)
    (h : create policy g region = .ok a) : a.allocate = (.ok (some (a.address 0)), a.advanced) := by
  obtain ⟨m, hcreate, -⟩ := create_eq policy region hg
  obtain rfl := Except.ok.inj (h.symm.trans hcreate)
  have hpos : 0 < g.usable := by
    rw [hg.usable_eq]
    exact Nat.mul_pos hg.blockCount_pos hg.blockSize_pos
  simp only [allocate, hpos, if_true, blockAt, Except.map, address, advanced, Nat.zero_mul]

/-- A fresh arena is sound, and no block is taken. -/
theorem create_spec (policy : Policy) (region : Mapping) {size : Nat} {g : Geometry}
    (hg : Geometry.ofBlockSize size = .ok g) (hlen : region.len = regionBytes) (hstop : region.stop ≤ Size.limit) :
    ∃ a, create policy g region = .ok a ∧ a.Sound g ∧ a.taken = ∅ ∧ a.policy = policy ∧ a.blockSize = size ∧
      a.region = region := by
  obtain ⟨hsize, hfits⟩ := Geometry.ofBlockSize_fits hg
  obtain ⟨m, hcreate, hm, hset, hcount, -⟩ := create_eq policy region hfits
  refine ⟨_, hcreate, ?_, ?_, rfl, hsize, rfl⟩
  · refine ⟨⟨by rw [hsize]; exact hg, rfl, hcount, hlen, hstop, ?_, ?_⟩, hm, ?_⟩
    · simp [cursor]
    · simp [cursor]
    · intro i hi
      rw [show FreeMap.freeSet _ = ∅ from hset] at hi
      cases hi
  · simp [taken, cursor]

end BlockHeap.Arena
