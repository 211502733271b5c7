import BlockHeap.Proofs.Threads.Slots

/-!
# Calls in single steps

A `Stage` is a point in a call to an arena at which the next operation on a slot is due, with all that the call
remembers there. `Stage.access` is this operation, and `resume` goes on from its answer to the next stage. The stages
of an allocation follow `Arena.allocate`: it tries to move the cursor on, and looks for a free block when the cursor is
at the end, in the words of the regions that have a summary bit. Taking the last free block of a word is followed by two
scans of the region, with the summary bit cleared in between. The stages of a deallocation follow
`Arena.deallocate`.

One step of a call is `Arena.work`. What it comes to at each stage is said by the lemmas `work_loadBump` to
`work_giveMark`.
-/

namespace BlockHeap.Arena

/-- Where a search for a free block is: the region where it started, the number of the visit, and the summary bits of
this visit that were not followed to the end, of which the lowest is followed now. -/
structure Search where
  start : Nat
  step : Nat
  summary : UInt64
  deriving DecidableEq

/-- The region in which a search is. -/
def Search.region (q : Search) (s : FreeMap.Shape) : Nat :=
  FreeMap.visitIndex s q.start q.step * FreeMap.bitsPerWord + Word.lowest q.summary

/-- A point in a call at which an operation on a slot is due, or the call has ended. -/
inductive Stage where
  /-- Between calls. -/
  | idle
  | loadBump
  /-- The cursor is moved on from an offset. -/
  | advance (offset : Nat)
  | count
  | loadSummary (start step : Nat)
  | loadWord (q : Search) (i : Nat)
  /-- The lowest of the bits seen in word `i` is taken. -/
  | takeBit (q : Search) (i : Nat) (bits : UInt64)
  /-- Word `i` of the region of the block taken is read, before or after the summary bit is cleared. -/
  | scan (cleared : Bool) (region block i : Nat)
  | clear (region block : Nat)
  | restore (region block : Nat)
  | giveBit (block : Nat)
  | giveMark (block : Nat)
  /-- An allocation has ended. -/
  | answered (answer : Option Nat)
  /-- A deallocation has ended. -/
  | released
  | failed (f : Fault)
  deriving DecidableEq

/-! ## Between the operations -/

/-- Tries to move the cursor on from an offset that was read. -/
def tryBump (a : Arena) (offset : Nat) : Stage :=
  if offset < a.usable then .advance offset else .count

/-- Ends an allocation with the block at an offset. -/
def handOut (a : Arena) (offset : Nat) : Stage :=
  match a.blockAt offset with
  | .ok x => .answered (some x)
  | .error f => .failed f

/-- Goes on after a visit. -/
def nextVisit (a : Arena) (start step : Nat) : Stage :=
  if step < a.free.shape.summaryCount then .loadSummary start (step + 1) else .answered none

/-- Follows the lowest of the remaining summary bits. -/
def follow (a : Arena) (q : Search) : Stage :=
  if _ : q.summary = 0 then a.nextVisit q.start q.step
  else if FreeMap.regionStart (q.region a.free.shape) < FreeMap.regionStop a.free.shape (q.region a.free.shape) then
    .loadWord q (FreeMap.regionStart (q.region a.free.shape))
  else a.follow { q with summary := Word.dropLowest q.summary }
  termination_by q.summary.toNat
  decreasing_by exact Word.dropLowest_lt ‹_›

/-- Goes on after a word without free blocks. -/
def nextWord (a : Arena) (q : Search) (i : Nat) : Stage :=
  if i + 1 < FreeMap.regionStop a.free.shape (q.region a.free.shape) then .loadWord q (i + 1)
  else a.follow { q with summary := Word.dropLowest q.summary }

/-- Goes on with the bits that were seen in a word. -/
def withBits (a : Arena) (q : Search) (i : Nat) (bits : UInt64) : Stage :=
  if bits = 0 then a.nextWord q i
  else if i * FreeMap.bitsPerWord + Word.lowest bits < a.blockCount then .takeBit q i bits
  else .failed .freeBitPastEnd

/-- Ends a scan that has found no free block. -/
def endScan (a : Arena) (cleared : Bool) (region block : Nat) : Stage :=
  if cleared then a.handOut (block * a.blockSize) else .clear region block

/-- Begins a scan. -/
def beginScan (a : Arena) (cleared : Bool) (region block : Nat) : Stage :=
  if FreeMap.regionStart region < FreeMap.regionStop a.free.shape region then
    .scan cleared region block (FreeMap.regionStart region)
  else a.endScan cleared region block

/-- Goes on after taking the lowest of the bits seen in a word. -/
def afterTake (a : Arena) (q : Search) (i : Nat) (bits : UInt64) : Stage :=
  if Word.dropLowest bits = 0 then
    a.beginScan false (q.region a.free.shape) (i * FreeMap.bitsPerWord + Word.lowest bits)
  else a.handOut ((i * FreeMap.bitsPerWord + Word.lowest bits) * a.blockSize)

/-- Goes on after reading a word in a scan. -/
def afterScan (a : Arena) (cleared : Bool) (region block i : Nat) (word : UInt64) : Stage :=
  if word ≠ 0 then
    if cleared then .restore region block else a.handOut (block * a.blockSize)
  else if i + 1 < FreeMap.regionStop a.free.shape region then .scan cleared region block (i + 1)
  else a.endScan cleared region block

/-- Begins a deallocation. -/
def beginRelease (a : Arena) (address : Nat) : Stage :=
  if !a.owns address then .failed .foreignToArena
  else
    let offset := address - a.base
    if offset % a.blockSize ≠ 0 then .failed .offBoundary
    else if offset / a.blockSize < a.blockCount then .giveBit (offset / a.blockSize)
    else .failed .blockOutOfRange

/-! ## The operations -/

/-- The number of the summary bit's word, and its mask. -/
def summaryBit (region : Nat) : Slot × UInt64 :=
  (.summary (region / FreeMap.bitsPerWord), Word.bit (region % FreeMap.bitsPerWord))

/-- The operation that is due. -/
def Stage.access (a : Arena) : Stage → Option (Slot × Cell.Op)
  | .loadBump => some (.bump, .load)
  | .advance offset => some (.bump, .compareExchange (.ofNat offset) (.ofNat (offset + a.blockSize)))
  | .count => some (.searches, .fetchAdd 1)
  | .loadSummary start step => some (.summary (FreeMap.visitIndex a.free.shape start step), .load)
  | .loadWord _ i => some (.word i, .load)
  | .takeBit _ i bits => some (.word i, .compareExchange bits (Word.dropLowest bits))
  | .scan _ _ _ i => some (.word i, .load)
  | .clear region _ => some ((summaryBit region).1, .fetchAnd (~~~(summaryBit region).2))
  | .restore region _ => some ((summaryBit region).1, .fetchOr (summaryBit region).2)
  | .giveBit block => some (.word (block / FreeMap.bitsPerWord), .fetchOr (Word.bit (block % FreeMap.bitsPerWord)))
  | .giveMark block =>
    let region := FreeMap.regionOfWord (block / FreeMap.bitsPerWord)
    some ((summaryBit region).1, .fetchOr (summaryBit region).2)
  | .idle | .answered _ | .released | .failed _ => none

/-- Goes on from the answer of an operation to the next stage. -/
def resume (a : Arena) : Stage → Cell.Reply → Stage
  | .loadBump, .old v => a.tryBump v.toNat
  | .advance offset, .exchanged _ => a.handOut offset
  | .advance _, .kept v => a.tryBump v.toNat
  | .count, .old v => .loadSummary (v.toNat % a.free.shape.regionCount) 0
  | .loadSummary start step, .old v => a.follow ⟨start, step, v &&& FreeMap.visitMask a.free.shape start step⟩
  | .loadWord q i, .old v => a.withBits q i v
  | .takeBit q i bits, .exchanged _ => a.afterTake q i bits
  | .takeBit q i _, .kept v => a.withBits q i v
  | .scan cleared region block i, .old v => a.afterScan cleared region block i v
  | .clear region block, .old _ => a.beginScan true region block
  | .restore _ block, .old _ => a.handOut (block * a.blockSize)
  | .giveBit block, .old v =>
    if v &&& Word.bit (block % FreeMap.bitsPerWord) ≠ 0 then .failed .alreadyFree else .giveMark block
  | .giveMark _, .old _ => .released
  | stage, _ => stage

/-- One step of a call: the arena and the stage afterwards. -/
def work (a : Arena) (stage : Stage) (spurious : Bool) : Arena × Stage :=
  match stage.access a with
  | none => (a, stage)
  | some (slot, op) => ((a.access slot op spurious).2, a.resume stage (a.access slot op spurious).1)

/-! ## What a step comes to -/

section Work

variable {a : Arena} {g : Geometry} {spurious : Bool}

/-- At a stage where a slot is due to be read, the call goes on from what it holds. -/
theorem work_load (h : a.Narrow) {stage : Stage} (slot : Slot) (hstage : stage.access a = some (slot, .load)) :
    a.work stage spurious = (a, a.resume stage (.old (a.read slot))) := by
  rw [work, hstage]
  dsimp only
  rw [access_load h]

/-- At a stage where a slot is due for an exchange, the answer tells whether it took place. -/
theorem work_exchange (h : a.Narrow) {stage : Stage} (slot : Slot) (expected new : UInt64)
    (hstage : stage.access a = some (slot, .compareExchange expected new)) :
    a.work stage spurious =
      if spurious = false ∧ a.read slot = expected then
        (a.write slot new, a.resume stage (.exchanged (a.read slot)))
      else (a, a.resume stage (.kept (a.read slot))) := by
  rw [work, hstage]
  dsimp only
  rw [access_exchange h]
  split
  · rfl
  · rfl

theorem work_loadBump (h : a.Narrow) : a.work .loadBump spurious = (a, a.tryBump a.bump) := by
  have hload : a.work .loadBump spurious = (a, a.tryBump (UInt64.ofNat a.bump).toNat) := work_load h .bump rfl
  rw [hload, UInt64.toNat_ofNat_of_lt' h]

/-- The cursor is moved on if it still is where it was; the answer of an exchange that fails is the cursor. -/
theorem work_advance (h : a.Laid g) {offset : Nat} (ho : offset < a.usable) :
    a.work (.advance offset) spurious =
      if spurious = false ∧ a.bump = offset then (a.advanced, a.handOut offset) else (a, a.tryBump a.bump) := by
  have hnarrow := h.narrow
  have husable : a.usable ≤ regionBytes := h.region_len ▸ h.usable_le
  have hlimit : regionBytes < UInt64.size := by decide
  have hnext : a.bump = offset → offset + a.blockSize < UInt64.size := by
    intro heq
    have hcursor := h.bump_lt_iff.mp (heq ▸ ho)
    have hend := h.address_add_le hcursor
    rw [address, base, ← h.bump_eq, heq] at hend
    omega
  have hsmall : offset < UInt64.size := by omega
  have hsame : UInt64.ofNat a.bump = UInt64.ofNat offset ↔ a.bump = offset := by
    rw [← UInt64.toNat_inj, UInt64.toNat_ofNat_of_lt' hnarrow, UInt64.toNat_ofNat_of_lt' hsmall]
  have hexchange : a.work (.advance offset) spurious =
      if spurious = false ∧ UInt64.ofNat a.bump = UInt64.ofNat offset then
        ({ a with bump := (UInt64.ofNat (offset + a.blockSize)).toNat }, a.handOut offset)
      else (a, a.tryBump (UInt64.ofNat a.bump).toNat) := work_exchange hnarrow .bump _ _ rfl
  rw [hexchange, UInt64.toNat_ofNat_of_lt' hnarrow]
  simp only [hsame]
  split
  · rename_i hboth
    rw [UInt64.toNat_ofNat_of_lt' (hnext hboth.2), advanced, hboth.2]
  · rfl

theorem work_count : a.work .count spurious =
    ({ a with free := a.free.searched }, .loadSummary a.free.startRegion 0) := rfl

theorem work_loadSummary (h : a.Narrow) (start step : Nat) : a.work (.loadSummary start step) spurious =
    (a, a.follow ⟨start, step, a.free.summaryWord (FreeMap.visitIndex a.free.shape start step) &&&
      FreeMap.visitMask a.free.shape start step⟩) := work_load h (.summary _) rfl

theorem work_loadWord (h : a.Narrow) (q : Search) (i : Nat) :
    a.work (.loadWord q i) spurious = (a, a.withBits q i (a.free.word i)) := work_load h (.word i) rfl

/-- A bit is taken if the word still is as it was seen; the answer of an exchange that fails is the word. -/
theorem work_takeBit (h : a.Narrow) (q : Search) (i : Nat) (bits : UInt64) :
    a.work (.takeBit q i bits) spurious =
      if spurious = false ∧ a.free.word i = bits then
        ({ a with free := a.free.putWord i (Word.dropLowest bits) }, a.afterTake q i bits)
      else (a, a.withBits q i (a.free.word i)) := work_exchange h (.word i) bits _ rfl

theorem work_scan (h : a.Narrow) (cleared : Bool) (region block i : Nat) :
    a.work (.scan cleared region block i) spurious = (a, a.afterScan cleared region block i (a.free.word i)) :=
  work_load h (.word i) rfl

theorem work_clear {region : Nat} (hr : region / FreeMap.bitsPerWord < a.free.shape.summaryCount) (block : Nat) :
    a.work (.clear region block) spurious =
      ({ a with free := a.free.unmark region hr }, a.beginScan true region block) := by
  have hclear : a.work (.clear region block) spurious =
      ({ a with
          free := a.free.putSummary (region / FreeMap.bitsPerWord)
            (a.free.summaryWord (region / FreeMap.bitsPerWord) &&& ~~~Word.bit (region % FreeMap.bitsPerWord)) },
        a.beginScan true region block) := rfl
  rw [hclear, FreeMap.summaryWord_eq hr, FreeMap.putSummary_eq hr]
  rfl

theorem work_restore {region : Nat} (hr : region / FreeMap.bitsPerWord < a.free.shape.summaryCount) (block : Nat) :
    a.work (.restore region block) spurious =
      ({ a with free := a.free.mark region hr }, a.handOut (block * a.blockSize)) := by
  have hrestore : a.work (.restore region block) spurious =
      ({ a with
          free := a.free.putSummary (region / FreeMap.bitsPerWord)
            (a.free.summaryWord (region / FreeMap.bitsPerWord) ||| Word.bit (region % FreeMap.bitsPerWord)) },
        a.handOut (block * a.blockSize)) := rfl
  rw [hrestore, FreeMap.summaryWord_eq hr, FreeMap.putSummary_eq hr]
  rfl

theorem work_giveBit {block : Nat} (hw : block / FreeMap.bitsPerWord < a.free.shape.wordCount) :
    a.work (.giveBit block) spurious =
      ({ a with free := a.free.addBlock block hw },
        if a.free.isFree block then .failed .alreadyFree else .giveMark block) := by
  have hgive : a.work (.giveBit block) spurious =
      ({ a with
          free := a.free.putWord (block / FreeMap.bitsPerWord) (a.free.word (block / FreeMap.bitsPerWord) |||
            Word.bit (block % FreeMap.bitsPerWord)) },
        if a.free.word (block / FreeMap.bitsPerWord) &&& Word.bit (block % FreeMap.bitsPerWord) ≠ 0 then
          .failed .alreadyFree
        else .giveMark block) := rfl
  rw [hgive]
  simp only [FreeMap.word_eq hw, FreeMap.putWord_eq hw, FreeMap.and_bit_ne_zero_iff hw]
  rfl

theorem work_giveMark {block : Nat}
    (hr : FreeMap.regionOfWord (block / FreeMap.bitsPerWord) / FreeMap.bitsPerWord < a.free.shape.summaryCount) :
    a.work (.giveMark block) spurious =
      ({ a with free := a.free.mark (FreeMap.regionOfWord (block / FreeMap.bitsPerWord)) hr }, .released) := by
  have hmark : a.work (.giveMark block) spurious =
      ({ a with
          free := a.free.putSummary (FreeMap.regionOfWord (block / FreeMap.bitsPerWord) / FreeMap.bitsPerWord)
            (a.free.summaryWord (FreeMap.regionOfWord (block / FreeMap.bitsPerWord) / FreeMap.bitsPerWord) |||
              Word.bit (FreeMap.regionOfWord (block / FreeMap.bitsPerWord) % FreeMap.bitsPerWord)) }, .released) := rfl
  rw [hmark, FreeMap.summaryWord_eq hr, FreeMap.putSummary_eq hr]
  rfl

end Work

end BlockHeap.Arena
