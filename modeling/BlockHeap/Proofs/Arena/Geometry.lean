import BlockHeap.Arena.Geometry
import BlockHeap.Proofs.Size

/-!
# Geometries fit their region

A geometry made for a block size divides the region without overlap (`ofBlockSize_fits`): the blocks end before the
words of the free map begin, the words end with the region, and every block has a bit. There is a geometry for each
power of two up to half a region (`exists_ofBlockSize`).
-/

namespace BlockHeap

namespace Arena.Geometry

/-- The parts of a geometry fit into a region. -/
structure Fits (g : Geometry) : Prop where
  blockSize_pow : ∃ e, g.blockSize = 2 ^ e
  blockCount_pos : 0 < g.blockCount
  usable_eq : g.usable = g.blockCount * g.blockSize
  usable_le : g.usable ≤ g.mapOffset
  mapOffset_add : g.mapOffset + g.shape.bytes = regionBytes
  blockCount_le : g.blockCount ≤ g.shape.wordCount * FreeMap.bitsPerWord

theorem Fits.blockSize_pos {g : Geometry} (h : g.Fits) : 0 < g.blockSize := by
  obtain ⟨e, he⟩ := h.blockSize_pow
  rw [he]
  exact Nat.two_pow_pos e

theorem Fits.usable_le_region {g : Geometry} (h : g.Fits) : g.usable ≤ regionBytes := by
  have := h.usable_le
  have := h.mapOffset_add
  omega

/-- The free map for the blocks of any size takes at most an eighth of a region and a little more. -/
theorem bytes_le {n : Nat} (h : n ≤ regionBytes) (hpos : 0 < Size.ceilDiv n FreeMap.bitsPerWord) :
    (FreeMap.Shape.mk (Size.ceilDiv n FreeMap.bitsPerWord) hpos).bytes ≤ 8390656 := by
  have hwords : Size.ceilDiv n FreeMap.bitsPerWord ≤ 1048576 := Size.ceilDiv_mono h
  have hregions : Size.ceilDiv (Size.ceilDiv n FreeMap.bitsPerWord) FreeMap.wordsPerRegion ≤ 16384 :=
    Size.ceilDiv_mono hwords
  have hsummary : Size.ceilDiv (Size.ceilDiv (Size.ceilDiv n FreeMap.bitsPerWord) FreeMap.wordsPerRegion)
      FreeMap.bitsPerWord ≤ 256 := Size.ceilDiv_mono hregions
  simp only [FreeMap.Shape.bytes, FreeMap.Shape.totalWords, FreeMap.Shape.summaryCount, FreeMap.Shape.regionCount]
  omega

/-- What is returned for a block size that is allowed. -/
theorem ofBlockSize_eq {size : Nat} (h1 : Size.isPowerOfTwo size = true) (h2 : size ≤ regionBytes / 2) :
    ∃ s : FreeMap.Shape, s.wordCount = Size.ceilDiv (regionBytes / size) FreeMap.bitsPerWord ∧
      ofBlockSize size = .ok ⟨size, (regionBytes - s.bytes) / size, (regionBytes - s.bytes) / size * size,
        regionBytes - s.bytes, s⟩ := by
  obtain ⟨e, rfl⟩ := Size.exists_pow_of_isPowerOfTwo h1
  have hregion : regionBytes / 2 ≤ regionBytes := Nat.div_le_self _ _
  have hcount : 0 < regionBytes / 2 ^ e := Nat.div_pos (by omega) (Nat.two_pow_pos e)
  have hwords : 0 < Size.ceilDiv (regionBytes / 2 ^ e) FreeMap.bitsPerWord :=
    FreeMap.Shape.ceilDiv_pos hcount (by decide)
  refine ⟨⟨Size.ceilDiv (regionBytes / 2 ^ e) FreeMap.bitsPerWord, hwords⟩, rfl, ?_⟩
  have hshape : FreeMap.Shape.ofBlocks (regionBytes / 2 ^ e) =
      .ok ⟨Size.ceilDiv (regionBytes / 2 ^ e) FreeMap.bitsPerWord, hwords⟩ := dif_pos hcount
  have hle : ¬regionBytes / 2 < 2 ^ e := by omega
  unfold ofBlockSize
  rw [h1, hshape]
  simp only [Bool.not_true, Bool.false_eq_true, hle, if_false]
  rfl

theorem exists_ofBlockSize {size : Nat} (h1 : Size.isPowerOfTwo size = true) (h2 : size ≤ regionBytes / 2) :
    ∃ g, ofBlockSize size = .ok g := by
  obtain ⟨s, -, hs⟩ := ofBlockSize_eq h1 h2
  exact ⟨_, hs⟩

theorem isPowerOfTwo_of_ofBlockSize {size : Nat} {g : Geometry} (h : ofBlockSize size = .ok g) :
    Size.isPowerOfTwo size = true ∧ size ≤ regionBytes / 2 := by
  unfold ofBlockSize at h
  split at h
  · cases h
  · rename_i h1
    split at h
    · cases h
    · rename_i h2
      exact ⟨by simpa using h1, Nat.le_of_not_lt h2⟩

/-- **Geometries fit.** -/
theorem ofBlockSize_fits {size : Nat} {g : Geometry} (h : ofBlockSize size = .ok g) : g.blockSize = size ∧ g.Fits := by
  obtain ⟨hpow, hle⟩ := isPowerOfTwo_of_ofBlockSize h
  obtain ⟨s, hs, hg⟩ := ofBlockSize_eq hpow hle
  rw [hg] at h
  cases h
  obtain ⟨e, he⟩ := Size.exists_pow_of_isPowerOfTwo hpow
  have hpos : 0 < size := by rw [he]; exact Nat.two_pow_pos e
  have hbytes : s.bytes ≤ 8390656 := by
    obtain ⟨w, hw⟩ := s
    subst hs
    exact bytes_le (Nat.div_le_self _ _) hw
  have hregion : regionBytes = 67108864 := rfl
  have hcover : regionBytes / size ≤ s.wordCount * FreeMap.bitsPerWord := by
    rw [hs]
    exact Size.le_roundUp (by decide) _
  refine ⟨rfl, ⟨e, he⟩, Nat.div_pos (by omega) hpos, rfl, Nat.div_mul_le_self _ _, Nat.sub_add_cancel (by omega), ?_⟩
  exact Nat.le_trans (Nat.div_le_div_right (Nat.sub_le _ _)) hcover

end Arena.Geometry

end BlockHeap
