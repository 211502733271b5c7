import BlockHeap.Proofs.FreeMap.Exact

/-!
# Free maps in checked arithmetic

Free maps once more, computed as on a machine: each sum, difference, product and remainder is a size or there is none, a
bit number must be below the width of a word, and a word is looked up by its number, which may not exist. `none` is the
answer of a computation that goes wrong in one of these ways.

In an exact free map of a size that an arena can have nothing goes wrong, and the checked search has the same result
(`Exact.claim?_eq`). Giving a block back and asking whether there is a free block do not go wrong in any free map
(`release?_eq`, `hasFree?_eq`).
-/

namespace BlockHeap

namespace Size

/-- The difference of two sizes, if there is one. -/
def sub? (a b : Nat) : Option Nat := if b ≤ a then some (a - b) else none

/-- The quotient of two sizes, if there is one. -/
def div? (a b : Nat) : Option Nat := if b = 0 then none else some (a / b)

/-- The remainder of two sizes, if there is one. -/
def mod? (a b : Nat) : Option Nat := if b = 0 then none else some (a % b)

variable {a b : Nat}

theorem add?_eq (h : a + b < limit) : add? a b = some (a + b) := if_pos h

theorem mul?_eq (h : a * b < limit) : mul? a b = some (a * b) := if_pos h

theorem sub?_eq (h : b ≤ a) : sub? a b = some (a - b) := if_pos h

theorem div?_eq (h : 0 < b) : div? a b = some (a / b) := if_neg (Nat.ne_of_gt h)

theorem mod?_eq (h : 0 < b) : mod? a b = some (a % b) := if_neg (Nat.ne_of_gt h)

end Size

namespace Word

/-- The word with bit `i` alone, if there is such a bit. -/
def bit? (i : Nat) : Option UInt64 := if i < width then some (bit i) else none

/-- The bits of a word from `i` on, if there is such a bit. -/
def fromBit? (i : Nat) : Option UInt64 := if i < width then some (fromBit i) else none

theorem bit?_eq {i : Nat} (h : i < 64) : bit? i = some (bit i) := if_pos h

theorem fromBit?_eq {i : Nat} (h : i < 64) : fromBit? i = some (fromBit i) := if_pos h

/-- Without its lowest bit is without the bit of the lowest number. -/
theorem dropLowest_eq {w : UInt64} (h : w ≠ 0) : dropLowest w = w &&& ~~~bit (lowest w) := by
  apply ext
  intro i
  have hlow := lowest_lt h
  rw [has_dropLowest h, has_and, has_not, has_bit hlow]
  by_cases hi : i < 64
  · simp [hi, eq_comm]
  · have hnot : has w i = false := by
      rw [← Bool.not_eq_true]
      exact fun hw => hi (lt_of_has hw)
    simp [hnot]

end Word

namespace FreeMap

/-! ## Checked operations -/

/-- Replaces word number `i`, if there is one. -/
def setWord? (m : FreeMap) (i : Nat) (v : UInt64) : Option FreeMap :=
  if h : i < m.shape.wordCount then some { m with words := m.words.set i v } else none

/-- Replaces summary word number `i`, if there is one. -/
def setSummary? (m : FreeMap) (i : Nat) (v : UInt64) : Option FreeMap :=
  if h : i < m.shape.summaryCount then some { m with summary := m.summary.set i v } else none

/-- Marks block `i` as free. -/
def release? (m : FreeMap) (i : Nat) : Option (Except Fault Unit × FreeMap) :=
  if i < m.blockCount then do
    let w := i / bitsPerWord
    let old ← m.words[w]?
    let mask ← Word.bit? (i % bitsPerWord)
    let m ← m.setWord? w (old ||| mask)
    if old &&& mask ≠ 0 then return (.error .alreadyFree, m)
    else
      let r := regionOfWord w
      let summary ← m.summary[r / bitsPerWord]?
      return (.ok (), ← m.setSummary? (r / bitsPerWord) (summary ||| (← Word.bit? (r % bitsPerWord))))
  else some (.error .blockOutOfRange, m)

/-- The first of `n` words from word `i` on that is not empty. -/
def wordFrom? (m : FreeMap) : (i n : Nat) → Option (Option Nat)
  | _, 0 => some none
  | i, n + 1 => do
    let w ← m.words[i]?
    if w = 0 then wordFrom? m (i + 1) n else return some i

/-- The words of a region: the first one, and one behind the last. -/
def regionSpan? (s : Shape) (r : Nat) : Option (Nat × Nat) := do
  let start ← Size.mul? r wordsPerRegion
  let stop ← Size.add? start wordsPerRegion
  return (start, min stop s.wordCount)

/-- The first word of a region that is not empty. A region may lie behind all words. -/
def firstFreeWord? (m : FreeMap) (r : Nat) : Option (Option Nat) := do
  let (start, stop) ← regionSpan? m.shape r
  m.wordFrom? start (stop - start)

/-- Whether some word of a region is not empty. The region must not lie behind all words. -/
def regionHasFree? (m : FreeMap) (r : Nat) : Option Bool := do
  let (start, stop) ← regionSpan? m.shape r
  let n ← Size.sub? stop start
  return (← m.wordFrom? start n).isSome

/-- The summary bits that the visit number `step` of a search may use. -/
def visitMask? (s : Shape) (start step : Nat) : Option UInt64 := do
  let first ← Word.fromBit? (start % bitsPerWord)
  return if step = 0 then first else if step = s.summaryCount then ~~~first else Word.full

/-- One visit of a search. -/
def visit? (m : FreeMap) (start step : Nat) : Option (Option Nat) := do
  let i ← Size.mod? (← Size.add? (start / bitsPerWord) step) m.shape.summaryCount
  let summary ← m.summary[i]?
  let mask ← visitMask? m.shape start step
  Word.findBitM? (fun b => do m.firstFreeWord? (← Size.add? (← Size.mul? i bitsPerWord) b)) (summary &&& mask)

/-- The first success among `n` visits from number `step` on. -/
def searchFrom? (m : FreeMap) (start : Nat) : (step n : Nat) → Option (Option Nat)
  | _, 0 => some none
  | step, n + 1 => do
    match ← m.visit? start step with
    | some i => return some i
    | none => searchFrom? m start (step + 1) n

/-- The word in which the next search finds a free block. -/
def search? (m : FreeMap) : Option (Option Nat) := do
  m.searchFrom? (← Size.mod? m.searches.toNat m.shape.regionCount) 0 (m.shape.summaryCount + 1)

/-- Clears the summary bit of the region of word `i`, if the region has no free block any more. -/
def refresh? (m : FreeMap) (i : Nat) : Option FreeMap := do
  let r := regionOfWord i
  let summary ← m.summary[r / bitsPerWord]?
  let mask ← Word.bit? (r % bitsPerWord)
  if ← m.regionHasFree? r then return m else m.setSummary? (r / bitsPerWord) (summary &&& ~~~mask)

/-- Takes the first free block of word `i`. -/
def take? (m : FreeMap) (i : Nat) : Option (Except Fault Nat × FreeMap) := do
  let word ← m.words[i]?
  let block ← Size.add? (← Size.mul? i bitsPerWord) (Word.lowest word)
  if block < m.blockCount then
    let rest := word &&& ~~~(← Word.bit? (Word.lowest word))
    let m ← m.setWord? i rest
    return (.ok block, ← if rest = 0 then m.refresh? i else some m)
  else return (.error .freeBitPastEnd, m)

/-- Takes a free block, if there is one. -/
def claim? (m : FreeMap) : Option (Except Fault (Option Nat) × FreeMap) := do
  let found ← m.search?
  let m := { m with searches := m.searches + 1 }
  match found with
  | none => return (.ok none, m)
  | some i =>
    let r ← m.take? i
    return (r.1.map some, r.2)

/-- Whether one of `n` summary words from word `i` on is not empty. -/
def summaryFrom? (m : FreeMap) : (i n : Nat) → Option Bool
  | _, 0 => some false
  | i, n + 1 => do
    let w ← m.summary[i]?
    if w = 0 then summaryFrom? m (i + 1) n else return true

/-- Whether some region may have a free block. -/
def hasFree? (m : FreeMap) : Option Bool := m.summaryFrom? 0 m.shape.summaryCount

/-! ## Nothing goes wrong -/

/-- Where no question about an element of a list goes wrong, a search does not. -/
theorem findSomeM?_of_answers {α β : Type} {f : Nat → Option (Option β)} {g : Nat → Option α} {e : α → β} {l : List Nat}
    (h : ∀ b ∈ l, f b = some ((g b).map e)) : l.findSomeM? f = some ((l.findSome? g).map e) := by
  induction l with
  | nil => rfl
  | cons b l ih =>
    rw [List.findSomeM?_cons, h b List.mem_cons_self, List.findSome?_cons]
    cases g b with
    | some a => rfl
    | none => exact ih fun c hc => h c (List.mem_cons_of_mem b hc)

variable {m : FreeMap} {i r start step n : Nat}

theorem words_getElem? (h : i < m.shape.wordCount) : m.words[i]? = some m.words[i] := by simp [h]

theorem summary_getElem? (h : i < m.shape.summaryCount) : m.summary[i]? = some m.summary[i] := by simp [h]

/-- **Giving a block back** does not go wrong: the word and the summary word of each block are there. -/
theorem release?_eq (m : FreeMap) (i : Nat) : m.release? i = some (m.release i) := by
  rw [release?, release]
  split
  · rename_i hi
    have hw : i / bitsPerWord < m.shape.wordCount :=
      Nat.div_lt_of_lt_mul (by have := m.blockCount_le; rw [Nat.mul_comm] at this; omega)
    have hr : regionOfWord (i / bitsPerWord) / bitsPerWord < m.shape.summaryCount := summary_index_lt m.shape hw
    simp only [words_getElem? hw, Word.bit?_eq (mod_bitsPerWord_lt _), setWord?, dif_pos hw, Option.bind_eq_bind,
      Option.bind_some]
    split
    · rfl
    · simp only [summary_getElem? hr, setSummary?, dif_pos hr, Option.bind_some]
      rfl
  · rfl

theorem wordFrom?_eq (m : FreeMap) (n : Nat) : ∀ {i : Nat} (h : i + n ≤ m.shape.wordCount),
    m.wordFrom? i n = some ((m.wordFrom i n h).map Fin.val) := by
  induction n with
  | zero =>
    intro i h
    rfl
  | succ n ih =>
    intro i h
    rw [wordFrom?, wordFrom, words_getElem? (by omega)]
    simp only [Option.bind_eq_bind, Option.bind_some]
    split
    · exact ih _
    · rfl

/-- Regions that summary bits can stand for are far from the end of the range. -/
theorem regionSpan?_eq (s : Shape) (h : r < 2 ^ 50) : regionSpan? s r = some (regionStart r, regionStop s r) := by
  have hstop : r * wordsPerRegion + wordsPerRegion < Size.limit := by
    unfold wordsPerRegion Size.limit UInt64.size
    omega
  rw [regionSpan?, Size.mul?_eq (Nat.lt_of_le_of_lt (Nat.le_add_right _ _) hstop)]
  simp only [Option.bind_eq_bind, Option.bind_some, Size.add?_eq hstop]
  rfl

theorem firstFreeWord?_eq (m : FreeMap) (h : r < 2 ^ 50) :
    m.firstFreeWord? r = some ((m.firstFreeWord r).map Fin.val) := by
  rw [firstFreeWord?, regionSpan?_eq _ h, firstFreeWord]
  simp only [Option.bind_eq_bind, Option.bind_some]
  split
  · exact wordFrom?_eq m _ _
  · rename_i hbehind
    rw [Nat.sub_eq_zero_of_le (Nat.le_of_not_le hbehind)]
    rfl

/-- The region of a word does not lie behind all words. -/
theorem regionStart_le_regionStop (s : Shape) (h : i < s.wordCount) :
    regionStart (regionOfWord i) ≤ regionStop s (regionOfWord i) := by
  unfold regionStop regionStart regionOfWord wordsPerRegion
  omega

theorem regionHasFree?_eq (m : FreeMap) (h : r < 2 ^ 50) (hle : regionStart r ≤ regionStop m.shape r) :
    m.regionHasFree? r = some (m.regionHasFree r) := by
  have hstop : regionStop m.shape r ≤ m.shape.wordCount := Nat.min_le_right _ _
  rw [regionHasFree?, regionSpan?_eq _ h, regionHasFree, firstFreeWord, dif_pos hle]
  simp only [Option.bind_eq_bind, Option.bind_some, Size.sub?_eq hle]
  rw [wordFrom?_eq m _ (by omega)]
  simp

theorem visitMask?_eq (s : Shape) (start step : Nat) : visitMask? s start step = some (visitMask s start step) := by
  rw [visitMask?, Word.fromBit?_eq (mod_bitsPerWord_lt start), visitMask]
  rfl

section Small

variable (hm : m.shape.wordCount ≤ 2 ^ 32)

include hm

theorem summaryCount_le : m.shape.summaryCount ≤ 2 ^ 32 ∧ m.shape.regionCount ≤ 2 ^ 32 := by
  have hregion := m.shape.regionCount_le_wordCount
  have hsummary := m.shape.summaryCount_le_regionCount
  omega

/-- The regions of a summary word are few enough. -/
theorem summary_region_lt {i b : Nat} (hi : i < m.shape.summaryCount) (hb : b < 64) :
    i * bitsPerWord + b < 2 ^ 50 := by
  have hsummary := (summaryCount_le hm).1
  unfold bitsPerWord
  omega

theorem visit?_eq (hstart : start < m.shape.regionCount) (hstep : step ≤ m.shape.summaryCount) :
    m.visit? start step = some (((m.visited start step).findSome? m.firstFreeWord).map Fin.val) := by
  have hadd : start / bitsPerWord + step < Size.limit := by
    obtain ⟨hsummary, hregion⟩ := summaryCount_le hm
    have hdiv : start / bitsPerWord ≤ start := Nat.div_le_self _ _
    unfold Size.limit UInt64.size
    omega
  have hi := (visitIndex m.shape start step).isLt
  have hmod : (start / bitsPerWord + step) % m.shape.summaryCount = visitIndex m.shape start step := rfl
  rw [visit?, Size.add?_eq hadd]
  simp only [Option.bind_eq_bind, Option.bind_some, Size.mod?_eq m.shape.summaryCount_pos, visitMask?_eq, hmod,
    summary_getElem? hi]
  rw [Word.findBitM?_eq_findSomeM?, visited, List.findSome?_map]
  refine findSomeM?_of_answers fun b hb => ?_
  have hregion := summary_region_lt hm hi (Word.lt_of_mem_bits hb)
  have hlimit : 2 ^ 50 < Size.limit := by decide
  rw [Size.mul?_eq (by omega), Option.bind_some, Size.add?_eq (by omega), Option.bind_some,
    firstFreeWord?_eq m hregion]
  rfl

theorem searchFrom?_eq (hstart : start < m.shape.regionCount) (n : Nat) : ∀ {step : Nat},
    step + n ≤ m.shape.summaryCount + 1 →
    m.searchFrom? start step n = some ((m.searchFrom start step n).map Fin.val) := by
  induction n with
  | zero =>
    intro step _
    rfl
  | succ n ih =>
    intro step h
    rw [searchFrom?, searchFrom_succ, visit?_eq hm hstart (by omega)]
    cases (m.visited start step).findSome? m.firstFreeWord with
    | some i => rfl
    | none => exact ih (by omega)

theorem search?_eq : m.search? = some (m.search.map Fin.val) := by
  rw [search?, Size.mod?_eq m.shape.regionCount_pos, search_eq_searchFrom]
  exact searchFrom?_eq hm m.startRegion_lt _ (Nat.le_of_eq (Nat.zero_add _))

theorem refresh?_eq (i : Fin m.shape.wordCount) : m.refresh? i = some (m.refresh i) := by
  have hr : regionOfWord i / bitsPerWord < m.shape.summaryCount := summary_index_lt m.shape i.isLt
  have hsmall : regionOfWord i < 2 ^ 50 := by
    have hi := i.isLt
    unfold regionOfWord wordsPerRegion
    omega
  rw [refresh?, refresh]
  simp only [summary_getElem? hr, Word.bit?_eq (mod_bitsPerWord_lt _), Option.bind_eq_bind, Option.bind_some,
    regionHasFree?_eq m hsmall (regionStart_le_regionStop m.shape i.isLt)]
  split
  · rfl
  · rw [setSummary?, dif_pos hr]

theorem take?_eq (i : Fin m.shape.wordCount) (hword : m.words.get i ≠ 0) : m.take? i = some (m.take i) := by
  have hlow := Word.lowest_lt hword
  have hblock : i * bitsPerWord + Word.lowest (m.words.get i) < Size.limit := by
    have hi := i.isLt
    unfold bitsPerWord Size.limit UInt64.size
    omega
  have hget : m.words[i.val]? = some (m.words.get i) := words_getElem? i.isLt
  have hset : m.setWord? i (Word.dropLowest (m.words.get i)) = some (m.setWord i (Word.dropLowest (m.words.get i))) :=
    dif_pos i.isLt
  rw [take?, take_eq, lowestBlock, hget]
  simp only [Option.bind_eq_bind, Option.bind_some, Size.mul?_eq (Nat.lt_of_le_of_lt (Nat.le_add_right _ _) hblock),
    Size.add?_eq hblock, Word.bit?_eq hlow, ← Word.dropLowest_eq hword, hset]
  split
  · split
    · rw [refresh?_eq (m := m.setWord i (Word.dropLowest (m.words.get i))) hm i]
      rfl
    · rfl
  · rfl

end Small

theorem summaryFrom?_eq (m : FreeMap) (n : Nat) : ∀ {i : Nat}, i + n ≤ m.shape.summaryCount →
    m.summaryFrom? i n = some (decide (∃ j, ∃ h : j < m.shape.summaryCount, i ≤ j ∧ j < i + n ∧ m.summary[j] ≠ 0)) := by
  induction n with
  | zero =>
    intro i _
    have hno : ¬∃ j, ∃ h : j < m.shape.summaryCount, i ≤ j ∧ j < i + 0 ∧ m.summary[j] ≠ 0 := by
      rintro ⟨j, -, hle, hlt, -⟩
      omega
    rw [summaryFrom?, decide_eq_false hno]
  | succ n ih =>
    intro i h
    rw [summaryFrom?, summary_getElem? (by omega)]
    simp only [Option.bind_eq_bind, Option.bind_some]
    split
    · rename_i hzero
      rw [ih (by omega)]
      -- the word that was looked at is empty, so it is none of those
      congr 2
      apply propext
      constructor
      · rintro ⟨j, hj, hle, hlt, hne⟩
        exact ⟨j, hj, by omega, by omega, hne⟩
      · rintro ⟨j, hj, hle, hlt, hne⟩
        have hij : i ≠ j := by
          rintro rfl
          exact hne hzero
        exact ⟨j, hj, by omega, by omega, hne⟩
    · rename_i hne
      rw [decide_eq_true ⟨i, by omega, Nat.le_refl i, by omega, hne⟩]
      rfl

/-- **Whether there is a free block** is found out without going wrong. -/
theorem hasFree?_eq (m : FreeMap) : m.hasFree? = some m.hasFree := by
  rw [hasFree?, summaryFrom?_eq m _ (Nat.le_of_eq (Nat.zero_add _))]
  congr 1
  rw [Bool.eq_iff_iff, decide_eq_true_iff, hasFree, Vector.any_eq_true]
  constructor
  · rintro ⟨j, hj, -, -, hne⟩
    exact ⟨j, hj, by simpa using hne⟩
  · rintro ⟨j, hj, hne⟩
    exact ⟨j, hj, Nat.zero_le j, by omega, by simpa using hne⟩

/-- **The checked search does not go wrong.** -/
theorem Exact.claim?_eq (he : m.Exact) (hm : m.shape.wordCount ≤ 2 ^ 32) : m.claim? = some m.claim := by
  rw [claim?, claim, search?_eq hm]
  cases hs : m.search with
  | none => rfl
  | some i =>
    have htake := take?_eq (m := { m with searches := m.searches + 1 }) hm i (he.word_ne_zero hs)
    simp only [Option.map_some, Option.bind_eq_bind, Option.bind_some, htake]
    rfl

end FreeMap

end BlockHeap
