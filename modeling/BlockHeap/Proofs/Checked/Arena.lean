import BlockHeap.Proofs.Arena.Evolves
import BlockHeap.Proofs.Checked.Shape

/-!
# Arenas in checked arithmetic

How an arena is divided and made, and how it hands out a block, computed once more in checked arithmetic. The geometry
for blocks of a given size never goes wrong (`Geometry.ofBlockSize?_eq`). A new arena checks that its region is long
enough and that the words of its free map are aligned, which is so in the regions that the operating system grants
(`create?_eq`). Nor does an allocation go wrong from an arena that was new once, whatever was given back to it
(`Regular.allocate?_eq`). Such an arena is `Safe`: it hands out its own blocks, knows its
own addresses and whether it is full, and its free map is exact (`Used.safe`).
-/

namespace BlockHeap.Arena

/-- The geometry for blocks of a given size. -/
def Geometry.ofBlockSize? (blockSize : Nat) : Option (Except Fault Geometry) :=
  if !Size.isPowerOfTwo blockSize then some (.error .blockSizeNotPowerOfTwo)
  else if regionBytes / 2 < blockSize then some (.error .blockSizeTooLarge)
  else do
    match ← FreeMap.Shape.ofBlocks? (← Size.div? regionBytes blockSize) with
    | .error f => return .error f
    | .ok shape =>
      let mapOffset ← Size.sub? regionBytes (← shape.bytes?)
      let blockCount ← Size.div? mapOffset blockSize
      return .ok { blockSize, blockCount, usable := ← Size.mul? blockCount blockSize, mapOffset, shape }

/-- A fresh arena of a given geometry in a fresh region, with its free map behind the blocks. The region must be long
enough, and the words of the free map must lie at multiples of 8, in the region and in memory. -/
def create? (policy : Policy) (g : Geometry) (region : Mapping) : Option (Except Fault Arena) := do
  guard (regionBytes ≤ region.len ∧ g.mapOffset % 8 = 0)
  let words ← Size.add? region.start g.mapOffset
  guard (words % 8 = 0)
  return create policy g region

/-- The address at a given offset. -/
def blockAt? (a : Arena) (offset : Nat) : Option (Except Fault Nat) :=
  if offset < a.usable then do return .ok (← Size.add? a.base offset) else some (.error .offsetOutOfRange)

/-- Hands out a block, if there is one. -/
def allocate? (a : Arena) : Option (Except Fault (Option Nat) × Arena) :=
  if a.bump < a.usable then do
    let block ← a.blockAt? a.bump
    return (block.map some, { a with bump := ← Size.add? a.bump a.blockSize })
  else do
    let r ← a.free.claim?
    let a := { a with free := r.2 }
    match r.1 with
    | .error f => return (.error f, a)
    | .ok none => return (.ok none, a)
    | .ok (some i) => return ((← a.blockAt? (← Size.mul? i a.blockSize)).map some, a)

/-- Whether there is no block to hand out. -/
def isFull? (a : Arena) : Option Bool :=
  if a.usable ≤ a.bump then do return !(← a.free.hasFree?) else some false

/-- An allocation does not go wrong and hands out a block of the arena, unless the arena is full; the arena knows its
addresses and whether it is full, and its free map is exact. -/
structure Safe (a : Arena) : Prop where
  allocate : a.allocate? = some a.allocate
  isFull : a.isFull? = some a.isFull
  answer : (a.isFull = false ∧ ∃ i b, i * a.blockSize < a.usable ∧
      a.allocate = (.ok (some (a.base + i * a.blockSize)), b)) ∨
    (a.isFull = true ∧ ∃ b, a.allocate = (.ok none, b))
  owns_iff : ∀ x, a.owns x = true ↔ a.base ≤ x ∧ x < a.base + a.usable
  exact : a.free.Exact

/-! ## Nothing goes wrong -/

variable {a : Arena} {g : Geometry} {size : Nat}

theorem regionBytes_lt_limit : regionBytes < Size.limit := by decide

/-- **How an arena is divided** is computed without going wrong. -/
theorem Geometry.ofBlockSize?_eq (size : Nat) : ofBlockSize? size = some (ofBlockSize size) := by
  by_cases hpow : Size.isPowerOfTwo size = true
  · by_cases hle : size ≤ regionBytes / 2
    · obtain ⟨s, hs, hg⟩ := ofBlockSize_eq hpow hle
      obtain ⟨hsize, hfits⟩ := ofBlockSize_fits hg
      have hpos : 0 < size := by
        rw [← hsize]
        exact hfits.blockSize_pos
      have hlimit := regionBytes_lt_limit
      have hcount : regionBytes / size < Size.limit := Nat.lt_of_le_of_lt (Nat.div_le_self _ _) hlimit
      have hshape : FreeMap.Shape.ofBlocks (regionBytes / size) = .ok s := by
        have hpositive : 0 < regionBytes / size := Nat.div_pos (Nat.le_trans hle (Nat.div_le_self _ _)) hpos
        obtain ⟨w, hw⟩ := s
        subst hs
        exact dif_pos hpositive
      have hcomputed := FreeMap.Shape.computed (FreeMap.Shape.wordCount_le hshape hcount)
      -- all that is computed lies within the region
      have hbytes : s.bytes ≤ regionBytes := Nat.le.intro ((Nat.add_comm _ _).trans hfits.mapOffset_add)
      have husable : (regionBytes - s.bytes) / size * size ≤ regionBytes := hfits.usable_le_region
      rw [hg, ofBlockSize?]
      simp only [hpow, Nat.not_lt_of_le hle, Bool.not_true, Bool.false_eq_true, if_false, Option.bind_eq_bind,
        Option.bind_some, Size.div?_eq hpos, FreeMap.Shape.ofBlocks?_eq hcount, hshape, hcomputed.bytes,
        Size.sub?_eq hbytes, Size.mul?_eq (Nat.lt_of_le_of_lt husable hlimit)]
      rfl
    · rw [ofBlockSize?, ofBlockSize]
      simp [hpow, Nat.lt_of_not_le hle]
  · rw [ofBlockSize?, ofBlockSize]
    simp [hpow]

/-- The free map of an arena is not too large. -/
theorem Regular.wordCount_le (h : a.Regular g) : a.free.shape.wordCount ≤ 2 ^ 32 := by
  have hoffset := h.fits.mapOffset_add
  have hregion : regionBytes = 67108864 := rfl
  unfold FreeMap.Shape.bytes FreeMap.Shape.totalWords at hoffset
  rw [h.shape]
  omega

theorem Laid.add_lt_limit (h : a.Laid g) {offset : Nat} (hoffset : offset < a.usable) :
    a.base + offset < Size.limit := by
  have hle := h.usable_le
  have hstop := h.region_stop
  unfold Mapping.stop at hstop
  unfold base
  omega

theorem Laid.blockAt?_eq (h : a.Laid g) (offset : Nat) : a.blockAt? offset = some (a.blockAt offset) := by
  rw [blockAt?, blockAt]
  split
  · rename_i hoffset
    rw [Size.add?_eq (h.add_lt_limit hoffset)]
    rfl
  · rfl

/-- The words of a free map take whole multiples of 8 bytes at the end of a region, which is a multiple of 8 long. -/
theorem Geometry.Fits.mapOffset_mod (hg : g.Fits) : g.mapOffset % 8 = 0 := by
  have hoffset := hg.mapOffset_add
  have hregion : regionBytes = 67108864 := rfl
  unfold FreeMap.Shape.bytes at hoffset
  omega

/-- The words of the free map have addresses, and are aligned. -/
theorem create?_eq (policy : Policy) (hg : g.Fits) {region : Mapping} (hpage : pageSize ∣ region.start)
    (hlen : region.len = regionBytes) (hstop : region.stop ≤ Size.limit) :
    create? policy g region = some (create policy g region) := by
  have hoffset := hg.mapOffset_add
  have hmod := hg.mapOffset_mod
  have hpos : 0 < g.shape.bytes := Nat.mul_pos (Nat.add_pos_left g.shape.wordCount_pos _) (by decide)
  have hstart : 8 ∣ region.start := Nat.dvd_trans (by decide) hpage
  have hwords : (region.start + g.mapOffset) % 8 = 0 := by omega
  unfold Mapping.stop at hstop
  rw [create?, Size.add?_eq (by omega)]
  simp [hlen, hmod, hwords]

theorem Laid.usable_lt_limit (h : a.Laid g) : a.usable < Size.limit := by
  rw [h.usable]
  exact Nat.lt_of_le_of_lt h.fits.usable_le_region regionBytes_lt_limit

/-- **An allocation does not go wrong**, whatever was given back before. -/
theorem Regular.allocate?_eq (h : a.Regular g) : a.allocate? = some a.allocate := by
  have husable := h.usable_lt_limit
  rw [allocate?, allocate]
  split
  · rename_i hbump
    have hend := h.address_add_le (h.bump_lt_iff.mp hbump)
    rw [address, ← h.bump_eq] at hend
    rw [h.blockAt?_eq, Size.add?_eq (show a.bump + a.blockSize < Size.limit by omega)]
    rfl
  · rw [h.exact.claim?_eq h.wordCount_le]
    rcases a.free.freeSet.eq_empty_or_nonempty with hfree | hfree
    · rw [FreeMap.claim_of_empty h.exact hfree]
      rfl
    · obtain ⟨i, m, hclaim, -, hi, -, -, halike, -⟩ := FreeMap.claim_spec h.exact hfree
      have hoffset : i * a.blockSize < a.usable := by
        rw [h.usable_eq]
        exact Nat.mul_lt_mul_of_pos_right (h.exact.lt_blockCount i (FreeMap.mem_freeSet.mp hi)) h.blockSize_pos
      have hblock := (h.toLaid.withFree halike.blockCount).blockAt?_eq (i * a.blockSize)
      simp only [hclaim, Option.bind_eq_bind, Option.bind_some, hblock,
        Size.mul?_eq (show i * a.blockSize < Size.limit by omega)]
      rfl

theorem isFull?_eq (a : Arena) : a.isFull? = some a.isFull := by
  rw [isFull?, isFull, FreeMap.hasFree?_eq]
  by_cases h : a.usable ≤ a.bump <;> simp [h]

/-- **An arena that was new once is safe**, whatever was given back to it. -/
theorem Used.safe (h : a.Used size) : a.Safe := by
  obtain ⟨g, -, hg, -⟩ := h.regular
  refine ⟨hg.allocate?_eq, a.isFull?_eq, ?_, hg.owns_iff, hg.exact⟩
  cases hfull : a.isFull with
  | false =>
    obtain ⟨i, b, hi, halloc⟩ := hg.allocate_of_not_isFull hfull
    refine .inl ⟨rfl, i, b, ?_, halloc⟩
    rw [hg.usable_eq]
    exact Nat.mul_lt_mul_of_pos_right hi hg.blockSize_pos
  | true => exact .inr ⟨rfl, _, hg.allocate_of_isFull hfull⟩

end BlockHeap.Arena
