import BlockHeap.FreeMap.Shape
import BlockHeap.Word

/-!
# Free maps

A free map remembers which of the blocks `0, …, blockCount - 1` have been given back. `release` marks a block as free,
`claim` finds a free block and marks it as taken.

Each block has a bit in `words`. Each region of 4096 blocks has a bit in `summary`, which is set when the region may
have a free block; a search looks into the regions with a summary bit only (`firstFreeWord`, `search`). Searches start
at a region further on each time, counted by `searches`, and go round at the end: the first summary word visited is
visited twice, its bits from the start on at the beginning, and those before at the very end.

What a search asks about a region is a parameter of its parts (`visitM`, `searchFromM`, `searchM`). A question may have
effects, such as keeping a record of what is asked.
-/

namespace BlockHeap

/-- Which blocks are free. -/
structure FreeMap where
  shape : FreeMap.Shape
  blockCount : Nat
  /-- The bits of the blocks: one where a block is free. -/
  words : Vector UInt64 shape.wordCount
  /-- The bits of the regions: one where a region may have a free block. -/
  summary : Vector UInt64 shape.summaryCount
  /-- The number of searches so far, going round at the end of the range. -/
  searches : UInt64
  /-- Every block has a bit. -/
  blockCount_le : blockCount ≤ shape.wordCount * FreeMap.bitsPerWord

namespace FreeMap

/-- The free map of a given shape in which no block is free. -/
def create (shape : Shape) (blockCount : Nat) : Except Fault FreeMap :=
  if h : blockCount ≤ shape.wordCount * bitsPerWord then
    .ok ⟨shape, blockCount, Vector.replicate _ 0, Vector.replicate _ 0, 0, h⟩
  else .error .shapeTooSmall

/-! ## Regions -/

/-- The region of a word. -/
def regionOfWord (i : Nat) : Nat := i / wordsPerRegion

/-- The first word of a region. -/
def regionStart (r : Nat) : Nat := r * wordsPerRegion

/-- One behind the last word of a region; the last region may be short. -/
def regionStop (s : Shape) (r : Nat) : Nat := min (regionStart r + wordsPerRegion) s.wordCount

/-- The word of the summary bit of each region exists. -/
theorem summary_index_lt (s : Shape) {i : Nat} (h : i < s.wordCount) :
    regionOfWord i / bitsPerWord < s.summaryCount := by
  unfold Shape.summaryCount Shape.regionCount Size.ceilDiv regionOfWord bitsPerWord wordsPerRegion
  split <;> split <;> omega

/-- The first of `n` words from word `i` on that is not empty. -/
def wordFrom (m : FreeMap) : (i n : Nat) → i + n ≤ m.shape.wordCount → Option (Fin m.shape.wordCount)
  | _, 0, _ => none
  | i, n + 1, h =>
    if m.words[i] = 0 then wordFrom m (i + 1) n (by omega) else some ⟨i, by omega⟩

/-- The first word of a region that is not empty. -/
def firstFreeWord (m : FreeMap) (r : Nat) : Option (Fin m.shape.wordCount) :=
  if h : regionStart r ≤ regionStop m.shape r then
    m.wordFrom (regionStart r) (regionStop m.shape r - regionStart r) (by
      have : regionStop m.shape r ≤ m.shape.wordCount := Nat.min_le_right _ _
      omega)
  else none

/-- Whether some word of a region is not empty. -/
def regionHasFree (m : FreeMap) (r : Nat) : Bool := (m.firstFreeWord r).isSome

/-- Whether some region may have a free block. -/
def hasFree (m : FreeMap) : Bool := m.summary.any (· ≠ 0)

/-! ## Giving blocks back -/

/-- Marks block `i` as free. A block that is free already is a fault, found after its bit was set again. -/
def release (m : FreeMap) (i : Nat) : Except Fault Unit × FreeMap :=
  if h : i < m.blockCount then
    let w := i / bitsPerWord
    have hw : w < m.shape.wordCount :=
      Nat.div_lt_of_lt_mul (by have := m.blockCount_le; rw [Nat.mul_comm] at this; omega)
    let mask := Word.bit (i % bitsPerWord)
    let r := regionOfWord w
    have hr : r / bitsPerWord < m.shape.summaryCount := summary_index_lt m.shape hw
    let old := m.words[w]
    let m := { m with words := m.words.set w (old ||| mask) }
    if old &&& mask ≠ 0 then (.error .alreadyFree, m)
    else
      (.ok (), { m with
        summary := m.summary.set (r / bitsPerWord) (m.summary[r / bitsPerWord] ||| Word.bit (r % bitsPerWord)) })
  else (.error .blockOutOfRange, m)

/-! ## Finding free blocks -/

/-- The summary bits that the visit number `step` of a search may use, when the search starts at region `start`. -/
def visitMask (s : Shape) (start step : Nat) : UInt64 :=
  if step = 0 then Word.fromBit (start % bitsPerWord)
  else if step = s.summaryCount then ~~~Word.fromBit (start % bitsPerWord)
  else Word.full

/-- The summary word of the visit number `step`. -/
def visitIndex (s : Shape) (start step : Nat) : Fin s.summaryCount :=
  ⟨(start / bitsPerWord + step) % s.summaryCount, Nat.mod_lt _ s.summaryCount_pos⟩

/-- The region at which the next search starts. -/
def startRegion (m : FreeMap) : Nat := m.searches.toNat % m.shape.regionCount

section Search

variable {M : Type → Type} [Monad M] {α : Type}

/-- One visit: the first answer that `ask` gives about a region that has one of the visited summary bits. -/
@[specialize]
def visitM (m : FreeMap) (ask : Nat → M (Option α)) (start step : Nat) : M (Option α) :=
  let i := visitIndex m.shape start step
  Word.findBitM? (fun b => ask (i * bitsPerWord + b)) (m.summary[i] &&& visitMask m.shape start step)

/-- The first answer in `n` visits from number `step` on. -/
@[specialize]
def searchFromM (m : FreeMap) (ask : Nat → M (Option α)) (start : Nat) : (step n : Nat) → M (Option α)
  | _, 0 => pure none
  | step, n + 1 => do
    match ← m.visitM ask start step with
    | some a => return some a
    | none => searchFromM m ask start (step + 1) n

/-- The first answer that `ask` gives about a region in the next search. -/
@[specialize]
def searchM (m : FreeMap) (ask : Nat → M (Option α)) : M (Option α) :=
  m.searchFromM ask m.startRegion 0 (m.shape.summaryCount + 1)

end Search

/-- The word in which the next search finds a free block. -/
def search (m : FreeMap) : Option (Fin m.shape.wordCount) := Id.run (m.searchM fun r => pure (m.firstFreeWord r))

/-! ## Taking blocks -/

/-- Clears the summary bit of the region of word `i`, if the region has no free block any more. -/
def refresh (m : FreeMap) (i : Fin m.shape.wordCount) : FreeMap :=
  let r := regionOfWord i
  have hr : r / bitsPerWord < m.shape.summaryCount := summary_index_lt m.shape i.isLt
  if m.regionHasFree r then m
  else
    { m with
      summary := m.summary.set (r / bitsPerWord) (m.summary[r / bitsPerWord] &&& ~~~Word.bit (r % bitsPerWord)) }

/-- Takes the first free block of word `i`. -/
def take (m : FreeMap) (i : Fin m.shape.wordCount) : Except Fault Nat × FreeMap :=
  let word := m.words[i]
  let block := i * bitsPerWord + Word.lowest word
  if block < m.blockCount then
    let rest := Word.dropLowest word
    let m := { m with words := m.words.set i rest }
    (.ok block, if rest = 0 then m.refresh i else m)
  else (.error .freeBitPastEnd, m)

/-- Counts a search, also one that found nothing, and takes a block of the word that it found. -/
def conclude (m : FreeMap) (found : Option (Fin m.shape.wordCount)) : Except Fault (Option Nat) × FreeMap :=
  let m := { m with searches := m.searches + 1 }
  match found with
  | none => (.ok none, m)
  | some i =>
    let r := m.take i
    (r.1.map some, r.2)

/-- Takes a free block, if there is one. -/
def claim (m : FreeMap) : Except Fault (Option Nat) × FreeMap := m.conclude m.search

/-- The description of a free map. -/
def describe (m : FreeMap) : String :=
  Text.record "FreeBitmap" [("layout", m.shape.describe), ("num_blocks", toString m.blockCount)]

end FreeMap

end BlockHeap
