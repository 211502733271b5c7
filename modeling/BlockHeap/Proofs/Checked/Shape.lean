import BlockHeap.Proofs.Checked.FreeMap

/-!
# Shapes are tight, and computed without overflow

The numbers of words, regions and summary words are three divisions that round up, one of the result of the other. The
word, the region and the summary word of a block are as many divisions that round down. The two chains match: a shape
made for `n` blocks is `Tight`, that is, each of its numbers is the least above the quotients of all blocks below `n`
(`tight_ofBlocks`). So the shapes for fewer blocks lie within it (`Tight.within`).

The numbers are computed once more in checked arithmetic. This does not go wrong for any number of blocks that is a
size, the largest included (`ofBlocks?_eq`, `computed`).
-/

namespace BlockHeap

namespace Size

/-- The number of `unit`s that cover a size, if it is a size. -/
def ceilDiv? (n unit : Nat) : Option Nat := do
  add? (← div? n unit) (if (← mod? n unit) = 0 then 0 else 1)

theorem ceilDiv?_eq {n unit : Nat} (hu : 0 < unit) (hn : n < limit) : ceilDiv? n unit = some (ceilDiv n unit) := by
  have hsum : n / unit + (if n % unit = 0 then 0 else 1) < limit := Nat.lt_of_le_of_lt (ceilDiv_le_self hu n) hn
  rw [ceilDiv?, div?_eq hu, mod?_eq hu]
  exact add?_eq hsum

end Size

namespace FreeMap

namespace Shape

/-! ## Checked computations -/

/-- The smallest shape with a bit for each of `n` blocks. -/
def ofBlocks? (n : Nat) : Option (Except Fault Shape) := do
  let words ← Size.ceilDiv? n bitsPerWord
  return if h : 0 < words then .ok ⟨words, h⟩ else .error .noBlocks

/-- The number of regions. -/
def regionCount? (s : Shape) : Option Nat := Size.ceilDiv? s.wordCount wordsPerRegion

/-- The number of words with a bit for each region. -/
def summaryCount? (s : Shape) : Option Nat := do Size.ceilDiv? (← s.regionCount?) bitsPerWord

/-- The number of words of both kinds. -/
def totalWords? (s : Shape) : Option Nat := do Size.add? s.wordCount (← s.summaryCount?)

/-- The room that all words take. -/
def bytes? (s : Shape) : Option Nat := do Size.mul? (← s.totalWords?) 8

/-- No number of a shape goes wrong when it is computed. -/
structure Computed (s : Shape) : Prop where
  regionCount : s.regionCount? = some s.regionCount
  summaryCount : s.summaryCount? = some s.summaryCount
  totalWords : s.totalWords? = some s.totalWords
  bytes : s.bytes? = some s.bytes

variable {s t : Shape} {n k : Nat}

theorem wordCount_of_ofBlocks (h : ofBlocks n = .ok s) : s.wordCount = Size.ceilDiv n bitsPerWord := by
  unfold ofBlocks at h
  split at h
  · cases h
    rfl
  · cases h

theorem exists_ofBlocks (h : 0 < n) : ∃ s, ofBlocks n = .ok s := ⟨_, dif_pos h⟩

/-- **Making a shape** does not go wrong, whatever the number of blocks. -/
theorem ofBlocks?_eq (h : n < Size.limit) : ofBlocks? n = some (ofBlocks n) := by
  rw [ofBlocks?, Size.ceilDiv?_eq (by decide) h, ofBlocks]
  rcases Nat.eq_zero_or_pos n with rfl | hpos
  · rfl
  · have hwords : 0 < Size.ceilDiv n bitsPerWord := ceilDiv_pos hpos (by decide)
    simp [hpos, hwords]

/-- Words for all blocks that there can be. -/
theorem wordCount_le (h : ofBlocks n = .ok s) (hn : n < Size.limit) : s.wordCount ≤ 2 ^ 58 := by
  rw [wordCount_of_ofBlocks h, Size.ceilDiv_le_iff (by decide)]
  exact Nat.le_of_lt hn

/-- **The numbers of a shape** that is not too large are computed without going wrong. -/
theorem computed (h : s.wordCount ≤ 2 ^ 58) : s.Computed := by
  have hregion := s.regionCount_le_wordCount
  have hsummary := s.summaryCount_le_regionCount
  have hlimit : Size.limit = 2 ^ 64 := rfl
  have hwords : s.wordCount < Size.limit := by omega
  have hregions : s.regionCount < Size.limit := by omega
  have htotal : s.wordCount + s.summaryCount < Size.limit := by omega
  have hbytes : s.totalWords * 8 < Size.limit := by
    unfold totalWords
    omega
  have h1 : s.regionCount? = some s.regionCount := Size.ceilDiv?_eq (by decide) hwords
  have h2 : s.summaryCount? = some s.summaryCount := by
    rw [summaryCount?, h1, Option.bind_eq_bind, Option.bind_some]
    exact Size.ceilDiv?_eq (by decide) hregions
  have h3 : s.totalWords? = some s.totalWords := by
    rw [totalWords?, h2]
    exact Size.add?_eq htotal
  have h4 : s.bytes? = some s.bytes := by
    rw [bytes?, h3]
    exact Size.mul?_eq hbytes
  exact ⟨h1, h2, h3, h4⟩

/-! ## Tight shapes -/

/-- Each number of a shape is the least with which every block below `n` has its word, its region and its summary
word. -/
structure Tight (s : Shape) (n : Nat) : Prop where
  wordCount_le_iff : ∀ c, s.wordCount ≤ c ↔ ∀ i < n, i / 64 < c
  regionCount_le_iff : ∀ c, s.regionCount ≤ c ↔ ∀ i < n, i / 64 / 64 < c
  summaryCount_le_iff : ∀ c, s.summaryCount ≤ c ↔ ∀ i < n, i / 64 / 64 / 64 < c

/-- No number of a shape is larger than that of another one. -/
structure Within (s t : Shape) : Prop where
  wordCount : s.wordCount ≤ t.wordCount
  regionCount : s.regionCount ≤ t.regionCount
  summaryCount : s.summaryCount ≤ t.summaryCount
  totalWords : s.totalWords ≤ t.totalWords
  bytes : s.bytes ≤ t.bytes

/-- **The shape that is made for a number of blocks** is tight. -/
theorem tight_ofBlocks (h : ofBlocks n = .ok s) : s.Tight n := by
  have hword : s.wordCount = Size.ceilDiv n 64 := wordCount_of_ofBlocks h
  have hregion : s.regionCount = Size.ceilDiv n (64 * 64) := by
    rw [regionCount, hword]
    exact Size.ceilDiv_ceilDiv (by decide) (by decide)
  have hsummary : s.summaryCount = Size.ceilDiv n (64 * 64 * 64) := by
    rw [summaryCount, hregion]
    exact Size.ceilDiv_ceilDiv (by decide) (by decide)
  refine ⟨fun c => ?_, fun c => ?_, fun c => ?_⟩
  · rw [hword]
    exact Size.ceilDiv_le_iff_div_lt (by decide)
  · rw [hregion, Size.ceilDiv_le_iff_div_lt (by decide)]
    simp only [Nat.div_div_eq_div_mul]
  · rw [hsummary, Size.ceilDiv_le_iff_div_lt (by decide)]
    simp only [Nat.div_div_eq_div_mul]

/-- A tight shape for fewer blocks lies within one for more. -/
theorem Tight.within (hs : s.Tight k) (ht : t.Tight n) (h : k ≤ n) : s.Within t := by
  have hword : s.wordCount ≤ t.wordCount := (hs.wordCount_le_iff _).mpr fun i hi =>
    (ht.wordCount_le_iff _).mp (Nat.le_refl _) i (Nat.lt_of_lt_of_le hi h)
  have hregion : s.regionCount ≤ t.regionCount := (hs.regionCount_le_iff _).mpr fun i hi =>
    (ht.regionCount_le_iff _).mp (Nat.le_refl _) i (Nat.lt_of_lt_of_le hi h)
  have hsummary : s.summaryCount ≤ t.summaryCount := (hs.summaryCount_le_iff _).mpr fun i hi =>
    (ht.summaryCount_le_iff _).mp (Nat.le_refl _) i (Nat.lt_of_lt_of_le hi h)
  have htotal : s.totalWords ≤ t.totalWords := Nat.add_le_add hword hsummary
  exact ⟨hword, hregion, hsummary, htotal, Nat.mul_le_mul_right 8 htotal⟩

/-- A free map for up to as many blocks as a shape was made for can have this shape. -/
theorem exists_create (h : ofBlocks n = .ok s) (hk : k ≤ n) : ∃ m, create s k = .ok m := by
  have hcover : n ≤ s.wordCount * bitsPerWord := by
    rw [wordCount_of_ofBlocks h]
    exact Size.le_roundUp (by decide) n
  exact ⟨_, dif_pos (Nat.le_trans hk hcover)⟩

/-- **Shapes are tight and do not overflow.** A shape for any number of blocks but zero is made, and its numbers are
computed, within the range of sizes; each of them is positive, and the least with which all blocks have their words and
their region. The shapes for fewer blocks lie within it, and it serves for free maps of up to as many blocks, which find
the words of every block that is given back. -/
theorem ofBlocks_tight (hn : 1 ≤ n) (hlimit : n < Size.limit) :
    ∃ s, ofBlocks n = .ok s ∧ ofBlocks? n = some (.ok s) ∧ s.Computed ∧
      (0 < s.wordCount ∧ 0 < s.regionCount ∧ 0 < s.summaryCount) ∧ s.Tight n ∧
      (∀ k, 1 ≤ k → k ≤ n → ∃ t, ofBlocks k = .ok t ∧ t.Within s) ∧
      ∀ k ≤ n, ∃ m, create s k = .ok m ∧ ∀ i, m.release? i = some (m.release i) := by
  obtain ⟨s, hs⟩ := exists_ofBlocks hn
  refine ⟨s, hs, ?_, computed (wordCount_le hs hlimit), ⟨s.wordCount_pos, s.regionCount_pos, s.summaryCount_pos⟩,
    tight_ofBlocks hs, fun k hk hle => ?_, fun k hle => ?_⟩
  · rw [ofBlocks?_eq hlimit, hs]
  · obtain ⟨t, ht⟩ := exists_ofBlocks hk
    exact ⟨t, ht, (tight_ofBlocks ht).within (tight_ofBlocks hs) hle⟩
  · obtain ⟨m, hm⟩ := exists_create hs hle
    exact ⟨m, hm, m.release?_eq⟩

/-- The largest number of blocks that there can be, its last block, and the shape for a region and one block. -/
theorem ofBlocks_tight_largest : 1 ≤ 2 ^ 64 - 1 ∧ 2 ^ 64 - 1 < Size.limit ∧
    ∃ s, ofBlocks (2 ^ 64 - 1) = .ok s ∧ s.wordCount = 2 ^ 58 ∧ s.regionCount = 2 ^ 52 ∧ s.summaryCount = 2 ^ 46 ∧
      s.bytes? = some (2 ^ 61 + 2 ^ 49) ∧ (2 ^ 64 - 2) / 64 < s.wordCount ∧
      ¬s.summaryCount ≤ (2 ^ 64 - 2) / 64 / 64 / 64 ∧ ∃ t, ofBlocks 4097 = .ok t ∧ t.regionCount = 2 ∧ t.Within s := by
  obtain ⟨s, hs, -, hcomputed, -, htight, hwithin, -⟩ := ofBlocks_tight (n := 2 ^ 64 - 1) (by decide) (by decide)
  obtain rfl : s = ⟨2 ^ 58, by decide⟩ := by
    injection hs with hs
    exact hs.symm
  obtain ⟨t, ht, hts⟩ := hwithin 4097 (by decide) (by decide)
  have hregions : t.regionCount = 2 := by
    injection ht with ht
    subst ht
    decide
  refine ⟨by decide, by decide, _, hs, rfl, by decide, by decide, hcomputed.bytes.trans (by decide), ?_, ?_,
    t, ht, hregions, hts⟩
  · exact (htight.wordCount_le_iff _).mp (Nat.le_refl _) _ (by decide)
  · rw [htight.summaryCount_le_iff]
    exact fun h => Nat.lt_irrefl _ (h (2 ^ 64 - 2) (by decide))

end Shape

end FreeMap

end BlockHeap
