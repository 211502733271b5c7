import BlockHeap.FreeMap.Basic
import BlockHeap.Proofs.Size
import BlockHeap.Proofs.Word

/-!
# The bits of a free map

`isFree m i` and `isMarked m r` read the bit of a block and the summary bit of a region. A search through the words of
a region is a search through its blocks: the lowest block of the first word that is not empty is the first free block
of the region (`firstFreeWord_block`).
-/

namespace BlockHeap.FreeMap

theorem mod_bitsPerWord_lt (i : Nat) : i % bitsPerWord < 64 := Nat.mod_lt i (by decide)

/-- The number of blocks of a region. -/
def blocksPerRegion : Nat := wordsPerRegion * bitsPerWord

/-- The region of the word of a block is the block's region. -/
theorem regionOfWord_div (i : Nat) : regionOfWord (i / bitsPerWord) = i / blocksPerRegion := by
  rw [regionOfWord, Nat.div_div_eq_div_mul, Nat.mul_comm]
  rfl

theorem Shape.regionCount_le_wordCount (s : Shape) : s.regionCount ≤ s.wordCount := Size.ceilDiv_le_self (by decide) _

theorem Shape.summaryCount_le_regionCount (s : Shape) : s.summaryCount ≤ s.regionCount :=
  Size.ceilDiv_le_self (by decide) _

/-- The region of a word exists. -/
theorem region_lt_regionCount {s : Shape} {i : Nat} (hi : i < s.wordCount) : regionOfWord i < s.regionCount :=
  Size.div_lt_ceilDiv (by decide) hi

/-- The summary word of a region exists. -/
theorem summary_word_lt {s : Shape} {r : Nat} (hr : r < s.regionCount) : r / bitsPerWord < s.summaryCount :=
  Size.div_lt_ceilDiv (by decide) hr

/-- Whether a block is free. -/
def isFree (m : FreeMap) (i : Nat) : Bool :=
  if h : i / bitsPerWord < m.shape.wordCount then Word.has m.words[i / bitsPerWord] (i % bitsPerWord) else false

/-- Whether a region has its summary bit. -/
def isMarked (m : FreeMap) (r : Nat) : Bool :=
  if h : r / bitsPerWord < m.shape.summaryCount then Word.has m.summary[r / bitsPerWord] (r % bitsPerWord) else false

/-- The lowest free block of a word. -/
def lowestBlock (m : FreeMap) (w : Fin m.shape.wordCount) : Nat := w * bitsPerWord + Word.lowest (m.words.get w)

/-- The bit of a block in its word. -/
theorem isFree_of_div_eq (m : FreeMap) {w i : Nat} (hw : w < m.shape.wordCount) (hi : i / bitsPerWord = w) :
    m.isFree i = Word.has m.words[w] (i % bitsPerWord) := by
  subst hi
  rw [isFree, dif_pos hw]

/-- The bit of a region in its summary word. -/
theorem isMarked_of_div_eq (m : FreeMap) {w r : Nat} (hw : w < m.shape.summaryCount) (hr : r / bitsPerWord = w) :
    m.isMarked r = Word.has m.summary[w] (r % bitsPerWord) := by
  subst hr
  rw [isMarked, dif_pos hw]

theorem word_add_div (w : Nat) {b : Nat} (hb : b < 64) : (w * bitsPerWord + b) / bitsPerWord = w := by
  unfold bitsPerWord
  omega

theorem word_add_mod (w : Nat) {b : Nat} (hb : b < 64) : (w * bitsPerWord + b) % bitsPerWord = b := by
  unfold bitsPerWord
  omega

theorem isFree_word (m : FreeMap) {w : Nat} (hw : w < m.shape.wordCount) {b : Nat} (hb : b < 64) :
    m.isFree (w * bitsPerWord + b) = Word.has m.words[w] b := by
  rw [m.isFree_of_div_eq hw (word_add_div w hb), word_add_mod w hb]

theorem isMarked_word (m : FreeMap) {w : Nat} (hw : w < m.shape.summaryCount) {b : Nat} (hb : b < 64) :
    m.isMarked (w * bitsPerWord + b) = Word.has m.summary[w] b := by
  rw [m.isMarked_of_div_eq hw (word_add_div w hb), word_add_mod w hb]

/-- Blocks beyond the last word are not free. -/
theorem lt_of_isFree {m : FreeMap} {i : Nat} (h : m.isFree i = true) : i / bitsPerWord < m.shape.wordCount := by
  unfold isFree at h
  split at h
  · assumption
  · cases h

/-- A word is empty when none of its blocks is free. -/
theorem word_eq_zero_iff (m : FreeMap) {w : Nat} (hw : w < m.shape.wordCount) :
    m.words[w] = 0 ↔ ∀ i, i / bitsPerWord = w → m.isFree i = false := by
  rw [Word.eq_zero_iff]
  constructor
  · intro h i hi
    rw [m.isFree_of_div_eq hw hi]
    exact h _
  · intro h b
    by_cases hb : b < 64
    · rw [← isFree_word m hw hb]
      exact h _ (word_add_div w hb)
    · cases hh : Word.has m.words[w] b with
      | false => rfl
      | true => exact absurd (Word.lt_of_has hh) hb

/-- The lowest block of a word that is not empty is free. -/
theorem isFree_lowestBlock {m : FreeMap} {w : Fin m.shape.wordCount} (h : m.words.get w ≠ 0) :
    m.isFree (m.lowestBlock w) = true := by
  rw [lowestBlock, isFree_word m w.isLt (Word.lowest_lt h)]
  exact Word.has_lowest h

theorem lowestBlock_div {m : FreeMap} {w : Fin m.shape.wordCount} (h : m.words.get w ≠ 0) :
    m.lowestBlock w / bitsPerWord = w :=
  word_add_div w (Word.lowest_lt h)

theorem lowestBlock_region {m : FreeMap} {w : Fin m.shape.wordCount} (h : m.words.get w ≠ 0) :
    m.lowestBlock w / blocksPerRegion = regionOfWord w := by
  rw [← regionOfWord_div, lowestBlock_div h]

/-- The lowest block of a word is below the other free blocks of the word. -/
theorem lowestBlock_le {m : FreeMap} {w : Fin m.shape.wordCount} {i : Nat} (hi : i / bitsPerWord = w)
    (h : m.isFree i = true) : m.lowestBlock w ≤ i := by
  rw [m.isFree_of_div_eq w.isLt hi] at h
  calc
    m.lowestBlock w ≤ w * bitsPerWord + i % bitsPerWord := Nat.add_le_add_left (Word.lowest_le h) _
    _ = i := by rw [← hi, Nat.mul_comm, Nat.div_add_mod]

/-! ## The first word of a region that is not empty -/

theorem wordFrom_eq_none {m : FreeMap} {i n : Nat} {h : i + n ≤ m.shape.wordCount} (hn : m.wordFrom i n h = none)
    {j : Nat} (hj : j < m.shape.wordCount) (h1 : i ≤ j) (h2 : j < i + n) : m.words[j] = 0 := by
  induction n generalizing i with
  | zero => omega
  | succ n ih =>
    rw [wordFrom] at hn
    split at hn
    · rename_i h0
      rcases Nat.eq_or_lt_of_le h1 with he | hlt
      · subst he
        exact h0
      · exact ih hn hlt (by omega)
    · cases hn

theorem wordFrom_eq_some {m : FreeMap} {i n : Nat} {h : i + n ≤ m.shape.wordCount} {w : Fin m.shape.wordCount}
    (hs : m.wordFrom i n h = some w) :
    i ≤ w ∧ w < i + n ∧ m.words.get w ≠ 0 ∧ ∀ j (hj : j < m.shape.wordCount), i ≤ j → j < w → m.words[j] = 0 := by
  induction n generalizing i with
  | zero => cases hs
  | succ n ih =>
    rw [wordFrom] at hs
    split at hs
    · rename_i h0
      obtain ⟨h1, h2, h3, h4⟩ := ih hs
      refine ⟨by omega, by omega, h3, fun j hj hij hjw => ?_⟩
      rcases Nat.eq_or_lt_of_le hij with he | hlt
      · subst he
        exact h0
      · exact h4 j hj hlt hjw
    · rename_i h0
      cases hs
      exact ⟨Nat.le_refl i, by simp, h0, fun j hj hij hjw => absurd hjw (Nat.not_lt_of_le hij)⟩

/-- A region whose search finds nothing has empty words only. -/
theorem firstFreeWord_eq_none {m : FreeMap} {r : Nat} (h : m.firstFreeWord r = none) {j : Nat}
    (hj : j < m.shape.wordCount) (hr : regionOfWord j = r) : m.words[j] = 0 := by
  unfold firstFreeWord at h
  have hstart : regionStart r ≤ j := by subst hr; unfold regionStart regionOfWord wordsPerRegion; omega
  have hstop : j < regionStop m.shape r := by
    subst hr
    unfold regionStop regionStart regionOfWord wordsPerRegion
    omega
  rw [dif_pos (by omega)] at h
  exact wordFrom_eq_none h hj hstart (by omega)

/-- The word found in a region is in the region, is not empty, and comes after empty words only. -/
theorem firstFreeWord_eq_some {m : FreeMap} {r : Nat} {w : Fin m.shape.wordCount} (h : m.firstFreeWord r = some w) :
    regionOfWord w = r ∧ m.words.get w ≠ 0 ∧
      ∀ j (hj : j < m.shape.wordCount), regionOfWord j = r → j < w → m.words[j] = 0 := by
  unfold firstFreeWord at h
  split at h
  · obtain ⟨h1, h2, h3, h4⟩ := wordFrom_eq_some h
    have hstop : (w : Nat) < regionStart r + wordsPerRegion := by
      have : regionStop m.shape r ≤ regionStart r + wordsPerRegion := Nat.min_le_left _ _
      omega
    refine ⟨by unfold regionStart wordsPerRegion at *; unfold regionOfWord wordsPerRegion; omega, h3, ?_⟩
    intro j hj hr hjw
    exact h4 j hj (by subst hr; unfold regionStart regionOfWord wordsPerRegion; omega) hjw
  · cases h

/-- Searching the words of a region finds its first free block. -/
theorem firstFreeWord_block (m : FreeMap) (r : Nat) :
    (m.firstFreeWord r).map m.lowestBlock = (List.range' (r * blocksPerRegion) blocksPerRegion).find? m.isFree := by
  cases h : m.firstFreeWord r with
  | none =>
    symm
    rw [Option.map_none, List.find?_range'_eq_none]
    intro i h1 h2
    rw [Bool.not_eq_true', ← Bool.not_eq_true]
    intro hf
    have hw := lt_of_isFree hf
    have hr : regionOfWord (i / bitsPerWord) = r := by
      unfold blocksPerRegion wordsPerRegion bitsPerWord at h1 h2
      unfold regionOfWord wordsPerRegion bitsPerWord
      omega
    have h0 := (word_eq_zero_iff m hw).mp (firstFreeWord_eq_none h hw hr) i rfl
    rw [h0] at hf
    cases hf
  | some w =>
    obtain ⟨hr, hne, hbefore⟩ := firstFreeWord_eq_some h
    have hdiv := lowestBlock_div hne
    symm
    rw [Option.map_some, List.find?_range'_eq_some]
    refine ⟨isFree_lowestBlock hne, ?_, fun j h1 h2 => ?_⟩
    · rw [List.mem_range'_1]
      unfold regionOfWord wordsPerRegion at hr
      unfold bitsPerWord at hdiv
      unfold blocksPerRegion wordsPerRegion bitsPerWord
      omega
    · rw [Bool.not_eq_true', ← Bool.not_eq_true]
      intro hf
      have hw := lt_of_isFree hf
      rcases Nat.lt_or_ge (j / bitsPerWord) w with hlt | hge
      · have hrj : regionOfWord (j / bitsPerWord) = r := by
          unfold regionOfWord wordsPerRegion at hr ⊢
          unfold blocksPerRegion wordsPerRegion bitsPerWord at h1
          unfold bitsPerWord at hlt ⊢
          omega
        have h0 := (word_eq_zero_iff m hw).mp (hbefore _ hw hrj hlt) j rfl
        rw [h0] at hf
        cases hf
      · have hle : j / bitsPerWord ≤ w := by rw [← hdiv]; exact Nat.div_le_div_right (Nat.le_of_lt h2)
        have := lowestBlock_le (Nat.le_antisymm hle hge) hf
        omega

/-! ## Changing one bit -/

/-- The free map with another word in place of word `w`. -/
def setWord (m : FreeMap) : Fin m.shape.wordCount → UInt64 → FreeMap
  | ⟨w, hw⟩, v => { m with words := m.words.set w v hw }

/-- The free map with another summary word in place of summary word `w`. -/
def setSummary (m : FreeMap) (w : Fin m.shape.summaryCount) (v : UInt64) : FreeMap :=
  { m with summary := m.summary.set w v }

theorem isFree_setWord (m : FreeMap) (w : Fin m.shape.wordCount) (v : UInt64) (i : Nat) :
    (m.setWord w v).isFree i = if i / bitsPerWord = w then Word.has v (i % bitsPerWord) else m.isFree i := by
  unfold isFree setWord
  by_cases h : i / bitsPerWord = w
  · simp [h]
  · have h' : (w : Nat) ≠ i / bitsPerWord := fun e => h e.symm
    rw [if_neg h]
    simp [h']

theorem isMarked_setSummary (m : FreeMap) (w : Fin m.shape.summaryCount) (v : UInt64) (r : Nat) :
    (m.setSummary w v).isMarked r = if r / bitsPerWord = w then Word.has v (r % bitsPerWord) else m.isMarked r := by
  unfold isMarked setSummary
  by_cases h : r / bitsPerWord = w
  · simp [h]
  · have h' : (w : Nat) ≠ r / bitsPerWord := fun e => h e.symm
    rw [if_neg h]
    simp [h']

@[simp] theorem isMarked_setWord (m : FreeMap) (w : Fin m.shape.wordCount) (v : UInt64) (r : Nat) :
    (m.setWord w v).isMarked r = m.isMarked r := rfl

/-- Two numbers in the same word are equal when they have the same place in it. -/
theorem eq_iff_of_div_eq {i j : Nat} (h : j / bitsPerWord = i / bitsPerWord) :
    i % bitsPerWord = j % bitsPerWord ↔ j = i := by
  unfold bitsPerWord at *
  omega

/-- Sets the bit of a block. -/
def addBlock (m : FreeMap) (i : Nat) (hw : i / bitsPerWord < m.shape.wordCount) : FreeMap :=
  m.setWord ⟨i / bitsPerWord, hw⟩ (m.words[i / bitsPerWord] ||| Word.bit (i % bitsPerWord))

/-- Sets the summary bit of a region. -/
def mark (m : FreeMap) (r : Nat) (hr : r / bitsPerWord < m.shape.summaryCount) : FreeMap :=
  m.setSummary ⟨r / bitsPerWord, hr⟩ (m.summary[r / bitsPerWord] ||| Word.bit (r % bitsPerWord))

/-- Clears the summary bit of a region. -/
def unmark (m : FreeMap) (r : Nat) (hr : r / bitsPerWord < m.shape.summaryCount) : FreeMap :=
  m.setSummary ⟨r / bitsPerWord, hr⟩ (m.summary[r / bitsPerWord] &&& ~~~Word.bit (r % bitsPerWord))

theorem isFree_addBlock (m : FreeMap) {i : Nat} (hw : i / bitsPerWord < m.shape.wordCount) (j : Nat) :
    (m.addBlock i hw).isFree j = true ↔ j = i ∨ m.isFree j = true := by
  rw [addBlock, isFree_setWord]
  split
  · rename_i hj
    rw [Word.has_or, Word.has_bit (mod_bitsPerWord_lt _), Bool.or_eq_true, decide_eq_true_eq, m.isFree_of_div_eq hw hj,
      or_comm, eq_iff_of_div_eq hj]
  · rename_i hj
    have hne : j ≠ i := fun e => hj (by rw [e])
    simp [hne]

theorem isMarked_mark (m : FreeMap) {r : Nat} (hr : r / bitsPerWord < m.shape.summaryCount) (j : Nat) :
    (m.mark r hr).isMarked j = true ↔ j = r ∨ m.isMarked j = true := by
  rw [mark, isMarked_setSummary]
  split
  · rename_i hj
    rw [Word.has_or, Word.has_bit (mod_bitsPerWord_lt _), Bool.or_eq_true, decide_eq_true_eq,
      m.isMarked_of_div_eq hr hj, or_comm, eq_iff_of_div_eq hj]
  · rename_i hj
    have hne : j ≠ r := fun e => hj (by rw [e])
    simp [hne]

theorem isMarked_unmark (m : FreeMap) {r : Nat} (hr : r / bitsPerWord < m.shape.summaryCount) (j : Nat) :
    (m.unmark r hr).isMarked j = true ↔ j ≠ r ∧ m.isMarked j = true := by
  rw [unmark, isMarked_setSummary]
  split
  · rename_i hj
    have hb : j % bitsPerWord < 64 := mod_bitsPerWord_lt j
    rw [Word.has_and, Word.has_not, Word.has_bit (mod_bitsPerWord_lt _), Bool.and_eq_true, Bool.and_eq_true,
      decide_eq_true_eq, Bool.not_eq_true', decide_eq_false_iff_not, m.isMarked_of_div_eq hr hj, eq_iff_of_div_eq hj,
      and_comm]
    simp [hb]
  · rename_i hj
    have hne : j ≠ r := fun e => hj (by rw [e])
    simp [hne]

end BlockHeap.FreeMap
