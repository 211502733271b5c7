import BlockHeap.Proofs.FreeMap.Search
import Mathlib.Data.Finset.Basic
import Mathlib.Data.Finset.Range

/-!
# Free maps as sets of blocks

A free map is *exact* when only its blocks are free and the summary bits are right: a region is marked when it has a
free block, and not otherwise. Both operations keep this, and act on the set `freeSet` of the free blocks: `release`
adds a block (`release_spec`), `claim` removes the block that `choice` names (`claim_spec`), the smallest one of the
first region with a free block in cyclic order.
-/

namespace BlockHeap.FreeMap

/-- The blocks that are free. -/
def freeSet (m : FreeMap) : Finset Nat := (Finset.range (m.shape.wordCount * bitsPerWord)).filter (m.isFree ·)

@[simp] theorem mem_freeSet {m : FreeMap} {i : Nat} : i ∈ m.freeSet ↔ m.isFree i = true := by
  rw [freeSet, Finset.mem_filter, Finset.mem_range, and_iff_right_iff_imp]
  intro h
  have := lt_of_isFree h
  unfold bitsPerWord at *
  omega

/-- Only blocks are free, and the marked regions are those with a free block. -/
structure Exact (m : FreeMap) : Prop where
  lt_blockCount : ∀ i, m.isFree i = true → i < m.blockCount
  isMarked_iff : ∀ r, m.isMarked r = true ↔ ∃ i, i / blocksPerRegion = r ∧ m.isFree i = true

/-- The two maps differ in bits and searches only. -/
structure Alike (m n : FreeMap) : Prop where
  shape : n.shape = m.shape
  blockCount : n.blockCount = m.blockCount

theorem Alike.trans {l m n : FreeMap} (h : Alike l m) (h' : Alike m n) : Alike l n :=
  ⟨h'.shape.trans h.shape, h'.blockCount.trans h.blockCount⟩

/-- The regions of the free blocks exist. -/
theorem region_lt_of_isFree {m : FreeMap} {i : Nat} (h : m.isFree i = true) :
    i / blocksPerRegion < m.shape.regionCount := by
  rw [← regionOfWord_div]
  exact region_lt_regionCount (lt_of_isFree h)

/-- No region behind the last one is marked. -/
theorem Exact.isMarked_behind {m : FreeMap} (h : m.Exact) {r : Nat} (hr : m.shape.regionCount ≤ r) :
    m.isMarked r = false := by
  rw [← Bool.not_eq_true]
  intro hm
  obtain ⟨i, rfl, hf⟩ := (h.isMarked_iff r).mp hm
  exact Nat.not_lt_of_le hr (region_lt_of_isFree hf)

/-- `hasFree` tells whether some region has its summary bit. -/
theorem hasFree_iff_isMarked (m : FreeMap) : m.hasFree = true ↔ ∃ r, m.isMarked r = true := by
  rw [hasFree, Vector.any_iff_exists]
  constructor
  · rintro ⟨w, hw, hne⟩
    have hne' : m.summary[w] ≠ 0 := by simpa using hne
    exact ⟨_, (isMarked_word m hw (Word.lowest_lt hne')).trans (Word.has_lowest hne')⟩
  · rintro ⟨r, hr⟩
    unfold isMarked at hr
    split at hr
    · rename_i hw
      refine ⟨_, hw, ?_⟩
      have hne : m.summary[r / bitsPerWord] ≠ 0 := by
        intro h0
        rw [h0, Word.has_zero] at hr
        cases hr
      simpa using hne
    · cases hr

/-- In an exact map `hasFree` tells whether some block is free. -/
theorem Exact.hasFree_iff {m : FreeMap} (h : m.Exact) : m.hasFree = true ↔ m.freeSet.Nonempty := by
  rw [hasFree_iff_isMarked]
  constructor
  · rintro ⟨r, hr⟩
    obtain ⟨i, -, hf⟩ := (h.isMarked_iff r).mp hr
    exact ⟨i, mem_freeSet.mpr hf⟩
  · rintro ⟨i, hi⟩
    exact ⟨_, (h.isMarked_iff _).mpr ⟨i, rfl, mem_freeSet.mp hi⟩⟩

/-- **What is free says all**: exact free maps are equal if the same blocks are free in them and they have counted as
many searches. -/
theorem Exact.eq_of_freeSet {m n : FreeMap} (hm : m.Exact) (hn : n.Exact) (h : m.Alike n)
    (hsearches : n.searches = m.searches) (hfree : n.freeSet = m.freeSet) : n = m := by
  have hbit (i : Nat) : n.isFree i = m.isFree i := by
    rw [Bool.eq_iff_iff, ← mem_freeSet, ← mem_freeSet, hfree]
  have hmark (r : Nat) : n.isMarked r = m.isMarked r := by
    rw [Bool.eq_iff_iff, hn.isMarked_iff, hm.isMarked_iff]
    simp only [hbit]
  obtain ⟨shape, blockCount, words, summary, searches, hle⟩ := m
  obtain ⟨shape', blockCount', words', summary', searches', hle'⟩ := n
  obtain ⟨rfl, rfl⟩ := h
  obtain rfl : searches' = searches := hsearches
  have hwords : words' = words := by
    ext1 w hw
    refine Word.ext_of_lt fun b hb => ?_
    rw [← isFree_word ⟨shape', blockCount', words', summary', searches', hle'⟩ hw hb,
      ← isFree_word ⟨shape', blockCount', words, summary, searches', hle⟩ hw hb]
    exact hbit _
  have hsummary : summary' = summary := by
    ext1 w hw
    refine Word.ext_of_lt fun b hb => ?_
    rw [← isMarked_word ⟨shape', blockCount', words', summary', searches', hle'⟩ hw hb,
      ← isMarked_word ⟨shape', blockCount', words, summary, searches', hle⟩ hw hb]
    exact hmark _
  rw [hwords, hsummary]

/-- A free map without free blocks is exact. -/
theorem create_spec {s : Shape} {n : Nat} (h : n ≤ s.wordCount * bitsPerWord) :
    ∃ m, create s n = .ok m ∧ m.Exact ∧ m.freeSet = ∅ ∧ m.shape = s ∧ m.blockCount = n ∧ m.searches = 0 := by
  refine ⟨⟨s, n, Vector.replicate _ 0, Vector.replicate _ 0, 0, h⟩, dif_pos h, ?_, ?_, rfl, rfl, rfl⟩
  · constructor
    · intro i hi
      simp [isFree] at hi
    · intro r
      simp [isMarked, isFree]
  · ext i
    simp [isFree]

/-! ## Giving blocks back -/

/-- A region has a free block when one of its words is not empty. -/
theorem regionHasFree_iff (m : FreeMap) (r : Nat) :
    m.regionHasFree r = true ↔ ∃ i, i / blocksPerRegion = r ∧ m.isFree i = true := by
  have hsome : m.regionHasFree r = ((m.firstFreeWord r).map m.lowestBlock).isSome := by
    rw [Option.isSome_map, regionHasFree]
  have hmem : ∀ i, i ∈ List.range' (r * blocksPerRegion) blocksPerRegion ↔ i / blocksPerRegion = r := by
    intro i
    rw [List.mem_range'_1]
    unfold blocksPerRegion wordsPerRegion bitsPerWord
    omega
  rw [hsome, firstFreeWord_block, List.find?_isSome]
  constructor
  · rintro ⟨i, hi, hf⟩
    exact ⟨i, (hmem i).mp hi, hf⟩
  · rintro ⟨i, hi, hf⟩
    exact ⟨i, (hmem i).mpr hi, hf⟩

/-- A block beyond the last one cannot be given back. -/
theorem release_of_le {m : FreeMap} {i : Nat} (h : m.blockCount ≤ i) : m.release i = (.error .blockOutOfRange, m) := by
  rw [release, dif_neg (Nat.not_lt_of_le h)]

/-- The index of a block's word. -/
theorem word_index_lt {m : FreeMap} {i : Nat} (h : i < m.blockCount) : i / bitsPerWord < m.shape.wordCount :=
  Nat.div_lt_of_lt_mul (by have := m.blockCount_le; rw [Nat.mul_comm] at this; omega)

/-- The old bit of a block, as `release` reads it. -/
theorem and_bit_ne_zero_iff {m : FreeMap} {i : Nat} (hw : i / bitsPerWord < m.shape.wordCount) :
    m.words[i / bitsPerWord] &&& Word.bit (i % bitsPerWord) ≠ 0 ↔ m.isFree i = true := by
  have hb := mod_bitsPerWord_lt i
  rw [m.isFree_of_div_eq hw rfl, ne_eq, Word.eq_zero_iff, not_forall]
  constructor
  · rintro ⟨j, hj⟩
    rw [Word.has_and, Word.has_bit hb, Bool.not_eq_false, Bool.and_eq_true, decide_eq_true_eq] at hj
    rw [hj.2]
    exact hj.1
  · intro h
    exact ⟨i % bitsPerWord, by simp [Word.has_bit hb, h]⟩

/-- A block that is free already cannot be given back, and nothing changes. -/
theorem release_of_isFree {m : FreeMap} {i : Nat} (h : i < m.blockCount) (hf : m.isFree i = true) :
    m.release i = (.error .alreadyFree, m) := by
  have hw := word_index_lt h
  have hb := mod_bitsPerWord_lt i
  have hold : m.words[i / bitsPerWord] ||| Word.bit (i % bitsPerWord) = m.words[i / bitsPerWord] := by
    apply Word.ext
    intro j
    have hbit : Word.has m.words[i / bitsPerWord] (i % bitsPerWord) = true := (m.isFree_of_div_eq hw rfl).symm.trans hf
    rw [Word.has_or, Word.has_bit hb]
    by_cases hj : i % bitsPerWord = j
    · subst hj
      simp [hbit]
    · simp [hj]
  rw [release, dif_pos h]
  simp only [(and_bit_ne_zero_iff hw).mpr hf, ne_eq, not_false_eq_true, if_true, hold, Vector.set_getElem_self]

/-- Giving back a block that is not free sets its bit and the summary bit of its region. -/
theorem release_of_not_isFree {m : FreeMap} {i : Nat} (h : i < m.blockCount) (hf : m.isFree i = false) :
    m.release i = (.ok (), (m.addBlock i (word_index_lt h)).mark (regionOfWord (i / bitsPerWord))
      (summary_index_lt m.shape (word_index_lt h))) := by
  have hw := word_index_lt h
  have hnew : ¬(m.words[i / bitsPerWord] &&& Word.bit (i % bitsPerWord) ≠ 0) := by
    rw [and_bit_ne_zero_iff hw, hf]
    exact Bool.false_ne_true
  rw [release, dif_pos h]
  simp only [hnew, if_false]
  rfl

/-- **Giving back a block that is not free adds it to the free blocks.** -/
theorem release_spec {m : FreeMap} (hm : m.Exact) {i : Nat} (h : i < m.blockCount) (hf : i ∉ m.freeSet) :
    ∃ n, m.release i = (.ok (), n) ∧ n.Exact ∧ n.freeSet = insert i m.freeSet ∧ m.Alike n ∧
      n.searches = m.searches := by
  have hw := word_index_lt h
  have hs : regionOfWord (i / bitsPerWord) / bitsPerWord < m.shape.summaryCount := summary_index_lt m.shape hw
  let n := (m.addBlock i hw).mark (regionOfWord (i / bitsPerWord)) hs
  have hfree : ∀ j, n.isFree j = true ↔ j = i ∨ m.isFree j = true := isFree_addBlock m hw
  have hmark : ∀ r, n.isMarked r = true ↔ r = i / blocksPerRegion ∨ m.isMarked r = true := by
    rw [← regionOfWord_div]
    exact isMarked_mark (m.addBlock i hw) hs
  refine ⟨n, ?_, ⟨fun j hj => ?_, fun r => ?_⟩, ?_, ⟨rfl, rfl⟩, rfl⟩
  · rw [mem_freeSet, Bool.not_eq_true] at hf
    exact release_of_not_isFree h hf
  · rcases (hfree j).mp hj with rfl | hj
    · exact h
    · exact hm.lt_blockCount j hj
  · rw [hmark, hm.isMarked_iff]
    constructor
    · rintro (rfl | ⟨j, hj, hfj⟩)
      · exact ⟨i, rfl, (hfree i).mpr (.inl rfl)⟩
      · exact ⟨j, hj, (hfree j).mpr (.inr hfj)⟩
    · rintro ⟨j, hj, hfj⟩
      rcases (hfree j).mp hfj with rfl | hfj
      · exact .inl hj.symm
      · exact .inr ⟨j, hj, hfj⟩
  · ext j
    rw [mem_freeSet, hfree, Finset.mem_insert, mem_freeSet]

/-! ## Taking blocks -/

/-- The smallest of some blocks in the first region, in cyclic order from `start` on, that has one of them. -/
def choice (free : Finset Nat) (regions start : Nat) : Option Nat :=
  (cyclic regions start).findSome? fun r => (List.range' (r * blocksPerRegion) blocksPerRegion).find? (· ∈ free)

theorem mem_of_choice {free : Finset Nat} {regions start i : Nat} (h : choice free regions start = some i) :
    i ∈ free := by
  obtain ⟨r, -, hr⟩ := List.exists_of_findSome?_eq_some h
  simpa using List.find?_some hr

theorem mem_cyclic {n start r : Nat} (hs : start < n) : r ∈ cyclic n start ↔ r < n := by
  rw [cyclic_eq hs, List.mem_append, mem_span, mem_span]
  omega

/-- If there is a block in one of the regions, there is a choice. -/
theorem choice_eq_none_iff {free : Finset Nat} {regions start : Nat} (hs : start < regions)
    (hfree : ∀ i ∈ free, i / blocksPerRegion < regions) : choice free regions start = none ↔ free = ∅ := by
  constructor
  · intro h
    rw [choice, List.findSome?_eq_none_iff] at h
    by_contra hne
    obtain ⟨i, hi⟩ := Finset.nonempty_iff_ne_empty.mpr hne
    have hnone := h _ ((mem_cyclic hs).mpr (hfree i hi))
    rw [List.find?_eq_none] at hnone
    refine hnone i ?_ (by simpa using hi)
    rw [List.mem_range'_1]
    unfold blocksPerRegion wordsPerRegion bitsPerWord
    omega
  · rintro rfl
    rw [choice, List.findSome?_eq_none_iff]
    intro r _
    simp

/-- The search of an exact map finds the word of the block that `choice` names. -/
theorem Exact.search_eq_choice {m : FreeMap} (hm : m.Exact) :
    m.search.map m.lowestBlock = choice m.freeSet m.shape.regionCount m.startRegion := by
  rw [search_eq m fun r => hm.isMarked_behind, List.map_findSome?, choice]
  congr 1
  funext r
  have hmem : (fun i => decide (i ∈ m.freeSet)) = m.isFree := by
    funext i
    simp
  rw [Function.comp_apply, look, hmem, ← firstFreeWord_block]
  split
  · rfl
  · rename_i hmark
    have hnone : ¬(m.regionHasFree r = true) := by
      rw [regionHasFree_iff, ← hm.isMarked_iff]
      exact hmark
    rw [regionHasFree, Option.not_isSome_iff_eq_none] at hnone
    rw [hnone]

/-- The word found by a search is not empty. -/
theorem Exact.word_ne_zero {m : FreeMap} (hm : m.Exact) {w : Fin m.shape.wordCount} (h : m.search = some w) :
    m.words.get w ≠ 0 := by
  rw [search_eq m fun r => hm.isMarked_behind] at h
  obtain ⟨r, -, hr⟩ := List.exists_of_findSome?_eq_some h
  unfold look at hr
  split at hr
  · exact (firstFreeWord_eq_some hr).2.1
  · cases hr

/-- Taking the lowest bit of a word takes its lowest free block. -/
theorem isFree_setWord_dropLowest {m : FreeMap} {w : Fin m.shape.wordCount} (h : m.words.get w ≠ 0) (i : Nat) :
    (m.setWord w (Word.dropLowest (m.words.get w))).isFree i = true ↔ m.isFree i = true ∧ i ≠ m.lowestBlock w := by
  have hlow := Word.lowest_lt h
  rw [isFree_setWord]
  split
  · rename_i hi
    have hmi : m.isFree i = Word.has (m.words.get w) (i % bitsPerWord) := m.isFree_of_div_eq w.isLt hi
    rw [Word.has_dropLowest h, hmi, Bool.and_eq_true, decide_eq_true_eq]
    refine and_congr_right fun _ => not_congr ?_
    unfold lowestBlock
    unfold bitsPerWord at *
    omega
  · rename_i hi
    have hne : i ≠ m.lowestBlock w := fun e => hi (by rw [e]; exact lowestBlock_div h)
    simp [hne]

@[simp] theorem isFree_refresh (m : FreeMap) (w : Fin m.shape.wordCount) (i : Nat) :
    (m.refresh w).isFree i = m.isFree i := by
  rw [refresh]
  split <;> rfl

/-- Refreshing changes the summary bit of its own region only, which stays when the region has a free block. -/
theorem isMarked_refresh (m : FreeMap) (w : Fin m.shape.wordCount) (r : Nat) : (m.refresh w).isMarked r = true ↔
    m.isMarked r = true ∧ (r = regionOfWord w → m.regionHasFree r = true) := by
  have hr : regionOfWord w / bitsPerWord < m.shape.summaryCount := summary_index_lt m.shape w.isLt
  by_cases hhas : m.regionHasFree (regionOfWord w) = true
  · have heq : m.refresh w = m := by
      rw [refresh]
      exact if_pos hhas
    rw [heq]
    exact (and_iff_left fun h => h ▸ hhas).symm
  · have heq : m.refresh w = m.unmark (regionOfWord w) hr := by
      rw [refresh]
      exact if_neg hhas
    rw [heq, isMarked_unmark, and_comm]
    exact and_congr_right fun _ => ⟨fun hne h => absurd h hne, fun h hrw => hhas (hrw ▸ h hrw)⟩

theorem refresh_alike (m : FreeMap) (w : Fin m.shape.wordCount) :
    m.Alike (m.refresh w) ∧ (m.refresh w).searches = m.searches := by
  rw [refresh]
  split <;> exact ⟨⟨rfl, rfl⟩, rfl⟩

theorem take_eq (m : FreeMap) (w : Fin m.shape.wordCount) :
    m.take w = if m.lowestBlock w < m.blockCount then
      let l := m.setWord w (Word.dropLowest (m.words.get w))
      (.ok (m.lowestBlock w), if Word.dropLowest (m.words.get w) = 0 then l.refresh w else l)
    else (.error .freeBitPastEnd, m) := rfl

/-- Taking the lowest block of a word that is not empty, be the summary bits right or stale: the block is not free any
more, and its region loses its summary bit when it has no other free block. -/
theorem take_lowest {m : FreeMap} {w : Fin m.shape.wordCount} (h : m.words.get w ≠ 0)
    (hblock : m.lowestBlock w < m.blockCount) :
    ∃ n, m.take w = (.ok (m.lowestBlock w), n) ∧
      (∀ i, n.isFree i = true ↔ m.isFree i = true ∧ i ≠ m.lowestBlock w) ∧
      (∀ r, n.isMarked r = true ↔ m.isMarked r = true ∧
        (r = regionOfWord w → ∃ i, i / blocksPerRegion = r ∧ n.isFree i = true)) ∧
      m.Alike n ∧ n.searches = m.searches := by
  let l := m.setWord w (Word.dropLowest (m.words.get w))
  have hfree : ∀ i, l.isFree i = true ↔ m.isFree i = true ∧ i ≠ m.lowestBlock w := isFree_setWord_dropLowest h
  by_cases hrest : Word.dropLowest (m.words.get w) = 0
  · let v : Fin l.shape.wordCount := w
    obtain ⟨halike, hsearches⟩ := refresh_alike l v
    refine ⟨l.refresh v, ?_, fun i => ?_, fun r => ?_, ⟨halike.shape, halike.blockCount⟩, hsearches⟩
    · rw [take_eq, if_pos hblock]
      simp only [hrest, if_true]
      rfl
    · rw [isFree_refresh]
      exact hfree i
    · simp only [isMarked_refresh, regionHasFree_iff, isFree_refresh]
      rfl
  · refine ⟨l, ?_, hfree, fun r => (and_iff_left ?_).symm, ⟨rfl, rfl⟩, rfl⟩
    · rw [take_eq, if_pos hblock]
      simp only [hrest, if_false]
      rfl
    · -- the word has another free block, which lies in the same region
      have hword : l.words.get w ≠ 0 := by
        have hnew : l.words.get w = Word.dropLowest (m.words.get w) := Vector.getElem_set_self w.isLt
        rwa [hnew]
      rintro rfl
      exact ⟨l.lowestBlock w, lowestBlock_region hword, isFree_lowestBlock hword⟩

/-- Taking the lowest block of a word that is not empty keeps a map exact. -/
theorem take_spec {m : FreeMap} (hm : m.Exact) {w : Fin m.shape.wordCount} (h : m.words.get w ≠ 0) :
    ∃ n, m.take w = (.ok (m.lowestBlock w), n) ∧ n.Exact ∧ n.freeSet = m.freeSet.erase (m.lowestBlock w) ∧
      m.Alike n ∧ n.searches = m.searches := by
  obtain ⟨n, htake, hfree, hmark, halike, hsearches⟩ := take_lowest h (hm.lt_blockCount _ (isFree_lowestBlock h))
  refine ⟨n, htake, ⟨fun i hi => ?_, fun r => ?_⟩, ?_, halike, hsearches⟩
  · rw [halike.blockCount]
    exact hm.lt_blockCount i ((hfree i).mp hi).1
  · rw [hmark, hm.isMarked_iff]
    constructor
    · rintro ⟨⟨i, rfl, hi⟩, hlast⟩
      by_cases he : i = m.lowestBlock w
      · exact hlast (by rw [he, lowestBlock_region h])
      · exact ⟨i, rfl, (hfree i).mpr ⟨hi, he⟩⟩
    · rintro ⟨i, hi, hf⟩
      exact ⟨⟨i, hi, ((hfree i).mp hf).1⟩, fun _ => ⟨i, hi, hf⟩⟩
  · ext i
    rw [mem_freeSet, hfree, Finset.mem_erase, mem_freeSet, and_comm]

/-- The free map after a search that finds nothing. -/
def searched (m : FreeMap) : FreeMap := { m with searches := m.searches + 1 }

theorem Exact.searched {m : FreeMap} (hm : m.Exact) : m.searched.Exact := ⟨hm.lt_blockCount, hm.isMarked_iff⟩

/-- Where there is no free block, none is found. -/
theorem claim_of_empty {m : FreeMap} (hm : m.Exact) (h : m.freeSet = ∅) : m.claim = (.ok none, m.searched) := by
  have hnone : m.search = none := by
    rw [← Option.map_eq_none_iff, hm.search_eq_choice, h]
    exact (choice_eq_none_iff (startRegion_lt m) (by simp)).mpr rfl
  rw [claim, hnone]
  rfl

/-- **Taking a block takes the one that `choice` names.** -/
theorem claim_spec {m : FreeMap} (hm : m.Exact) (h : m.freeSet.Nonempty) :
    ∃ i n, m.claim = (.ok (some i), n) ∧ choice m.freeSet m.shape.regionCount m.startRegion = some i ∧
      i ∈ m.freeSet ∧ n.Exact ∧ n.freeSet = m.freeSet.erase i ∧ m.Alike n ∧ n.searches = m.searches + 1 := by
  have hchoice := hm.search_eq_choice
  cases hs : m.search with
  | none =>
    rw [hs, Option.map_none, eq_comm, choice_eq_none_iff (startRegion_lt m) fun i hi =>
      region_lt_of_isFree (mem_freeSet.mp hi)] at hchoice
    exact absurd hchoice h.ne_empty
  | some w =>
    rw [hs, Option.map_some] at hchoice
    obtain ⟨n, h1, h2, h3, h4, h5⟩ := take_spec hm.searched (w := w) (hm.word_ne_zero hs)
    refine ⟨m.lowestBlock w, n, ?_, hchoice.symm, mem_of_choice hchoice.symm, h2, h3, ⟨h4.shape, h4.blockCount⟩, h5⟩
    have h1' : FreeMap.take { m with searches := m.searches + 1 } w = (.ok (m.lowestBlock w), n) := h1
    rw [claim, hs, conclude]
    simp only [h1']
    rfl

end BlockHeap.FreeMap
