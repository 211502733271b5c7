import BlockHeap.Size
import BlockHeap.Text

/-!
# The shape of a free map

A free map has one bit for each block, in words of 64 bits. 64 such words make a *region*, and the summary has one bit
for each region, again in words of 64 bits. So the number of words decides the number of regions, and this the number
of summary words; `Shape.ofBlocks` is the smallest shape with a bit for each of a number of blocks.
-/

namespace BlockHeap.FreeMap

/-- The number of bits of a word. -/
def bitsPerWord : Nat := 64

/-- The number of words of a region. -/
def wordsPerRegion : Nat := 64

/-- How many words a free map has. -/
structure Shape where
  /-- The number of words with a bit for each block. -/
  wordCount : Nat
  wordCount_pos : 0 < wordCount
  deriving DecidableEq

namespace Shape

/-- The number of regions. -/
def regionCount (s : Shape) : Nat := Size.ceilDiv s.wordCount wordsPerRegion

/-- The number of words with a bit for each region. -/
def summaryCount (s : Shape) : Nat := Size.ceilDiv s.regionCount bitsPerWord

/-- The number of words of both kinds. -/
def totalWords (s : Shape) : Nat := s.wordCount + s.summaryCount

/-- The room that all words take. -/
def bytes (s : Shape) : Nat := s.totalWords * 8

/-- What is cut into units is covered by at least one. -/
theorem ceilDiv_pos {n unit : Nat} (hn : 0 < n) (hu : 0 < unit) : 0 < Size.ceilDiv n unit := by
  unfold Size.ceilDiv
  split
  · rename_i h
    exact Nat.div_pos (Nat.le_of_dvd hn (Nat.dvd_of_mod_eq_zero h)) hu
  · exact Nat.succ_pos _

/-- There is at least one region. -/
theorem regionCount_pos (s : Shape) : 0 < s.regionCount := ceilDiv_pos s.wordCount_pos (by decide)

/-- There is at least one summary word. -/
theorem summaryCount_pos (s : Shape) : 0 < s.summaryCount := ceilDiv_pos s.regionCount_pos (by decide)

/-- The smallest shape with a bit for each of `n` blocks. -/
def ofBlocks (n : Nat) : Except Fault Shape :=
  if h : 0 < n then .ok ⟨Size.ceilDiv n bitsPerWord, ceilDiv_pos h (by decide)⟩
  else .error .noBlocks

/-- The description of a shape. -/
def describe (s : Shape) : String :=
  Text.record "BitmapLayout" [("l2_words", toString s.wordCount), ("l1_bits", toString s.regionCount),
    ("l1_words", toString s.summaryCount)]

end Shape

end BlockHeap.FreeMap
