import BlockHeap.Proofs.Threads.Effect

/-!
# A call left alone

While only one call to an arena is in progress, the call ends (`Laid.ends_loadBump`), and it comes to what
`Arena.allocate` says. `Comes r a stage` is the second part for a call in progress: from `stage` on, it comes to the
result `r` if nobody else changes the arena. Every step keeps this (`Comes.work`), also those steps whose exchanges fail
for no reason.
-/

namespace BlockHeap

namespace FreeMap

variable {m : FreeMap} {r i : Nat}

/-- The first word of a region that is not empty, from word `i` of the region on. -/
def firstFreeFrom (m : FreeMap) (r i : Nat) : Option (Fin m.shape.wordCount) :=
  if h : i ≤ regionStop m.shape r then
    m.wordFrom i (regionStop m.shape r - i) (by
      have : regionStop m.shape r ≤ m.shape.wordCount := Nat.min_le_right _ _
      omega)
  else none

theorem firstFreeWord_eq_firstFreeFrom (m : FreeMap) (r : Nat) :
    m.firstFreeWord r = m.firstFreeFrom r (regionStart r) := rfl

theorem firstFreeFrom_of_le (h : regionStop m.shape r ≤ i) : m.firstFreeFrom r i = none := by
  unfold firstFreeFrom
  split
  · have h0 : regionStop m.shape r - i = 0 := by omega
    simp only [h0, wordFrom]
  · rfl

theorem firstFreeFrom_of_lt (h : i < regionStop m.shape r) :
    m.firstFreeFrom r i = if m.word i = 0 then m.firstFreeFrom r (i + 1) else some ⟨i, lt_wordCount h⟩ := by
  have hn : regionStop m.shape r - i = regionStop m.shape r - (i + 1) + 1 := by omega
  rw [word_eq (lt_wordCount h)]
  simp only [firstFreeFrom, Nat.le_of_lt h, Nat.succ_le_of_lt h, dite_true, hn, wordFrom]

section Same

variable {shape : Shape} {count : Nat} {words : Vector UInt64 shape.wordCount}
  {summary summary' : Vector UInt64 shape.summaryCount} {s s' : UInt64} {h : count ≤ shape.wordCount * bitsPerWord}

/-! What is found in a region depends on the words only, and what a search finds not on the number of searches. -/

theorem wordFrom_same (n : Nat) : ∀ (i : Nat) (hi : i + n ≤ shape.wordCount),
    (FreeMap.mk shape count words summary s h).wordFrom i n hi =
      (FreeMap.mk shape count words summary' s' h).wordFrom i n hi := by
  induction n with
  | zero => exact fun _ _ => rfl
  | succ n ih =>
    intro i hi
    simp only [wordFrom, ih]

theorem firstFreeWord_same (r : Nat) : (FreeMap.mk shape count words summary s h).firstFreeWord r =
    (FreeMap.mk shape count words summary' s' h).firstFreeWord r := by
  unfold firstFreeWord
  split
  · exact wordFrom_same _ _ _
  · rfl

theorem searchFrom_same (start step n : Nat) :
    (FreeMap.mk shape count words summary s h).searchFrom start step n =
      (FreeMap.mk shape count words summary s' h).searchFrom start step n := by
  have hask : (FreeMap.mk shape count words summary s h).firstFreeWord =
      (FreeMap.mk shape count words summary s' h).firstFreeWord := funext firstFreeWord_same
  rw [searchFrom, searchFrom, hask]
  rfl

end Same

theorem firstFreeWord_unmark (m : FreeMap) {i : Nat} (hi : i / bitsPerWord < m.shape.summaryCount) (r : Nat) :
    (m.unmark i hi).firstFreeWord r = m.firstFreeWord r := by
  cases m
  exact firstFreeWord_same r

end FreeMap

namespace Arena

open FreeMap (regionStart regionStop blocksPerRegion bitsPerWord)

variable {g : Geometry} {a : Arena} {r : Except Fault (Option Nat) × Arena} {st : Stage}

/-! ## What a call comes to -/

/-- Hands out the first block of the word that a search has found. -/
def takeFound (a : Arena) : Option (Fin a.free.shape.wordCount) → Except Fault (Option Nat) × Arena
  | none => (.ok none, a)
  | some w => (((a.free.take w).1.bind fun i => a.blockAt (i * a.blockSize)).map some,
      { a with free := (a.free.take w).2 })

/-- What a search finds that has still to follow the bits it remembers. -/
def ahead (a : Arena) (q : Search) : Option (Fin a.free.shape.wordCount) :=
  ((Word.bits q.summary).findSome? fun b =>
    a.free.firstFreeWord (FreeMap.visitIndex a.free.shape q.start q.step * bitsPerWord + b)).or
    (a.free.searchFrom q.start (q.step + 1) (a.free.shape.summaryCount - q.step))

theorem ahead_of_zero {q : Search} (h : q.summary = 0) :
    a.ahead q = a.free.searchFrom q.start (q.step + 1) (a.free.shape.summaryCount - q.step) := by
  rw [ahead, h, Word.bits_zero, List.findSome?_nil, Option.none_or]

theorem ahead_of_ne_zero {q : Search} (h : q.summary ≠ 0) :
    a.ahead q = (a.free.firstFreeWord (q.region a.free.shape)).or
      (a.ahead { q with summary := Word.dropLowest q.summary }) := by
  have hask : a.free.firstFreeWord (FreeMap.visitIndex a.free.shape q.start q.step * bitsPerWord +
      Word.lowest q.summary) = a.free.firstFreeWord (q.region a.free.shape) := rfl
  rw [ahead, Word.bits_of_ne_zero h, List.findSome?_cons, hask]
  cases a.free.firstFreeWord (q.region a.free.shape) with
  | none => rfl
  | some w => rfl

/-- With the cursor at the end, an allocation takes what a search finds. -/
theorem allocate_of_bump (h : ¬a.bump < a.usable) :
    a.allocate = takeFound { a with free := a.free.searched } a.free.search := by
  cases hs : a.free.search with
  | none =>
    rw [allocate, if_neg h, FreeMap.claim, hs]
    rfl
  | some w =>
    obtain ⟨⟨taken, m⟩, htake⟩ : ∃ t, FreeMap.take a.free.searched w = t := ⟨_, rfl⟩
    have hclaim : a.free.claim = (taken.map some, m) := by
      rw [FreeMap.claim, hs]
      exact congrArg (fun t => (t.1.map some, t.2)) htake
    have hfound : takeFound { a with free := a.free.searched } (some w) =
        ((taken.bind fun i => a.blockAt (i * a.blockSize)).map some, { a with free := m }) :=
      congrArg (fun t => ((t.1.bind fun i => a.blockAt (i * a.blockSize)).map some, ({ a with free := t.2 } : Arena)))
        htake
    rw [allocate, if_neg h, hclaim]
    refine Eq.trans ?_ hfound.symm
    cases taken with
    | error f => rfl
    | ok i => rfl

/-- A block is taken from its word, and the summary bit of its region cleared, if the region is empty then. -/
theorem takeFound_some {i : Nat} (hi : i < a.free.shape.wordCount)
    (hblock : a.free.lowestBlock ⟨i, hi⟩ < a.blockCount) :
    a.takeFound (some ⟨i, hi⟩) =
      let l := a.free.setWord ⟨i, hi⟩ (Word.dropLowest (a.free.word i))
      ((a.blockAt ((i * bitsPerWord + Word.lowest (a.free.word i)) * a.blockSize)).map some,
        if Word.dropLowest (a.free.word i) = 0 then
          if l.regionHasFree (FreeMap.regionOfWord i) then { a with free := l }
          else { a with free := l.unmark (FreeMap.regionOfWord i) (FreeMap.summary_index_lt a.free.shape hi) }
        else { a with free := l }) := by
  have hget : a.free.words.get ⟨i, hi⟩ = a.free.word i := (FreeMap.word_eq hi).symm
  have htake := FreeMap.take_eq a.free ⟨i, hi⟩
  rw [if_pos (show a.free.lowestBlock ⟨i, hi⟩ < a.free.blockCount from hblock), lowestBlock_eq hi, hget] at htake
  rw [takeFound, htake]
  refine Prod.ext rfl ?_
  dsimp only
  split
  · exact apply_ite (fun m => ({ a with free := m } : Arena)) _ _ _
  · rfl

/-- From a stage on, an allocation comes to the result `r` if it is left alone. -/
inductive Comes (r : Except Fault (Option Nat) × Arena) : Arena → Stage → Prop where
  | loadBump {a : Arena} (result : a.allocate = r) : Comes r a .loadBump
  | advance {a : Arena} (room : a.bump < a.usable) (result : a.allocate = r) : Comes r a (.advance a.bump)
  | count {a : Arena} (full : ¬a.bump < a.usable) (result : a.allocate = r) : Comes r a .count
  | loadSummary {a : Arena} {start step : Nat} (visits : step ≤ a.free.shape.summaryCount)
    (result : a.takeFound (a.free.searchFrom start step (a.free.shape.summaryCount + 1 - step)) = r) :
    Comes r a (.loadSummary start step)
  | loadWord {a : Arena} {q : Search} {i : Nat} (visits : q.step ≤ a.free.shape.summaryCount)
    (words : regionStart (q.region a.free.shape) ≤ i ∧ i < regionStop a.free.shape (q.region a.free.shape))
    (result : a.takeFound ((a.free.firstFreeFrom (q.region a.free.shape) i).or
      (a.ahead { q with summary := Word.dropLowest q.summary })) = r) : Comes r a (.loadWord q i)
  | takeBit {a : Arena} {q : Search} {i : Nat} (hi : i < a.free.shape.wordCount)
    (region : q.region a.free.shape = FreeMap.regionOfWord i) (word : a.free.word i ≠ 0)
    (block : a.free.lowestBlock ⟨i, hi⟩ < a.blockCount) (result : a.takeFound (some ⟨i, hi⟩) = r) :
    Comes r a (.takeBit q i (a.free.word i))
  /-- The words of the region before word `i` are empty. -/
  | scan {a : Arena} {region block i : Nat} (hr : region / bitsPerWord < a.free.shape.summaryCount)
    (words : i < regionStop a.free.shape region)
    (before : a.free.firstFreeWord region = a.free.firstFreeFrom region i)
    (result : ((a.blockAt (block * a.blockSize)).map some,
      if a.free.regionHasFree region then a else { a with free := a.free.unmark region hr }) = r) :
    Comes r a (.scan false region block i)
  | clear {a : Arena} {region block : Nat} (hr : region / bitsPerWord < a.free.shape.summaryCount)
    (empty : a.free.firstFreeWord region = none)
    (result : ((a.blockAt (block * a.blockSize)).map some, { a with free := a.free.unmark region hr }) = r) :
    Comes r a (.clear region block)
  /-- When a region is empty and nobody else changes it, it is found empty again. -/
  | rescan {a : Arena} {region block i : Nat} (words : regionStart region ≤ i ∧ i < regionStop a.free.shape region)
    (empty : a.free.firstFreeWord region = none) (result : ((a.blockAt (block * a.blockSize)).map some, a) = r) :
    Comes r a (.scan true region block i)
  | answered {a : Arena} {answer : Option Nat} (result : (.ok answer, a) = r) : Comes r a (.answered answer)
  | failed {a : Arena} {f : Fault} (result : (.error f, a) = r) : Comes r a (.failed f)

namespace Comes

theorem handOut {offset : Nat} (h : ((a.blockAt offset).map some, a) = r) : Comes r a (a.handOut offset) := by
  unfold Arena.handOut
  cases hblock : a.blockAt offset with
  | ok x =>
    rw [hblock] at h
    exact .answered h
  | error f =>
    rw [hblock] at h
    exact .failed h

theorem tryBump (h : a.allocate = r) : Comes r a (a.tryBump a.bump) := by
  unfold Arena.tryBump
  split
  · exact .advance ‹_› h
  · exact .count ‹_› h

theorem nextVisit {start step : Nat}
    (h : a.takeFound (a.free.searchFrom start (step + 1) (a.free.shape.summaryCount - step)) = r) :
    Comes r a (a.nextVisit start step) := by
  unfold Arena.nextVisit
  split
  · refine .loadSummary ‹_› ?_
    rw [Nat.add_sub_add_right]
    exact h
  · have h0 : a.free.shape.summaryCount - step = 0 := by omega
    rw [h0] at h
    exact .answered h

theorem follow (q : Search) (hq : q.step ≤ a.free.shape.summaryCount) (h : a.takeFound (a.ahead q) = r) :
    Comes r a (a.follow q) := by
  induction q using follow.induct a with
  | case1 q h0 =>
    rw [Arena.follow, dif_pos h0]
    rw [ahead_of_zero h0] at h
    exact .nextVisit h
  | case2 q h0 hwords =>
    rw [Arena.follow, dif_neg h0, if_pos hwords]
    refine .loadWord hq ⟨Nat.le_refl _, hwords⟩ ?_
    rw [← h, ahead_of_ne_zero h0, FreeMap.firstFreeWord_eq_firstFreeFrom]
  | case3 q h0 hwords ih =>
    rw [Arena.follow, dif_neg h0, if_neg hwords]
    refine ih hq ?_
    have hnone : a.free.firstFreeWord (q.region a.free.shape) = none :=
      FreeMap.firstFreeFrom_of_le (Nat.le_of_not_lt hwords)
    rw [← h, ahead_of_ne_zero h0, hnone, Option.none_or]

/-- Taking from a word with a block that does not exist fails. -/
theorem withBits {q : Search} {i : Nat} (hq : q.step ≤ a.free.shape.summaryCount)
    (hi : regionStart (q.region a.free.shape) ≤ i ∧ i < regionStop a.free.shape (q.region a.free.shape))
    (h : a.takeFound ((a.free.firstFreeFrom (q.region a.free.shape) i).or
      (a.ahead { q with summary := Word.dropLowest q.summary })) = r) :
    Comes r a (a.withBits q i (a.free.word i)) := by
  have hword := FreeMap.lt_wordCount hi.2
  rw [FreeMap.firstFreeFrom_of_lt hi.2] at h
  unfold Arena.withBits
  split
  · rename_i h0
    rw [if_pos h0] at h
    unfold Arena.nextWord
    split
    · exact .loadWord hq ⟨Nat.le_succ_of_le hi.1, ‹_›⟩ h
    · rw [FreeMap.firstFreeFrom_of_le (Nat.le_of_not_lt ‹_›), Option.none_or] at h
      exact .follow _ hq h
  · rename_i h0
    rw [if_neg h0, Option.some_or] at h
    rw [← lowestBlock_eq hword]
    split
    · exact .takeBit hword (FreeMap.regionOfWord_eq hi.1 hi.2).symm h0 ‹_› h
    · rename_i hblock
      have htake : a.free.take ⟨i, hword⟩ = (.error .freeBitPastEnd, a.free) := by
        rw [FreeMap.take_eq]
        exact if_neg hblock
      rw [takeFound, htake] at h
      exact .failed h

theorem beginScan {region block : Nat} (hr : region / bitsPerWord < a.free.shape.summaryCount)
    (h : ((a.blockAt (block * a.blockSize)).map some,
      if a.free.regionHasFree region then a else { a with free := a.free.unmark region hr }) = r) :
    Comes r a (a.beginScan false region block) := by
  unfold Arena.beginScan
  split
  · exact .scan hr ‹_› rfl h
  · have hnone : a.free.firstFreeWord region = none := FreeMap.firstFreeFrom_of_le (Nat.le_of_not_lt ‹_›)
    rw [FreeMap.regionHasFree, hnone, Option.isSome_none, if_neg Bool.false_ne_true] at h
    exact .clear hr hnone h

/-- A region that is empty is scanned again without finding anything. -/
theorem beginRescan {region block : Nat} (hempty : a.free.firstFreeWord region = none)
    (h : ((a.blockAt (block * a.blockSize)).map some, a) = r) : Comes r a (a.beginScan true region block) := by
  unfold Arena.beginScan
  split
  · exact .rescan ⟨Nat.le_refl _, ‹_›⟩ hempty h
  · exact .handOut h

/-- **What a call comes to when left alone is kept by each of its steps.** -/
theorem work (ha : a.Laid g) (h : Comes r a st) (spurious : Bool) :
    Comes r (a.work st spurious).1 (a.work st spurious).2 := by
  have hnarrow := ha.narrow
  cases h with
  | loadBump result =>
    rw [work_loadBump hnarrow]
    exact .tryBump result
  | advance room result =>
    rw [work_advance ha room]
    split
    · rw [allocate, if_pos room] at result
      exact .handOut result
    · exact .tryBump result
  | count full result =>
    rw [work_count]
    refine .loadSummary (Nat.zero_le _) ?_
    rw [← result, allocate_of_bump full, FreeMap.search_eq_searchFrom]
    exact congrArg (takeFound { a with free := a.free.searched }) (FreeMap.searchFrom_same _ _ _)
  | @loadSummary start step visits result =>
    rw [work_loadSummary hnarrow]
    refine .follow _ visits ?_
    have hn : a.free.shape.summaryCount + 1 - step = a.free.shape.summaryCount - step + 1 := by omega
    rw [hn, FreeMap.searchFrom_succ, FreeMap.visited, List.findSome?_map] at result
    rw [← result, ahead, FreeMap.summaryWord_eq (FreeMap.visitIndex a.free.shape start step).isLt]
    rfl
  | loadWord visits words result =>
    rw [work_loadWord hnarrow]
    exact .withBits visits words result
  | @takeBit q i hi region word block result =>
    rw [work_takeBit hnarrow]
    split
    · rw [takeFound_some hi block] at result
      unfold afterTake
      rw [FreeMap.putWord_eq hi, region]
      split
      · rename_i h0
        exact .beginScan (FreeMap.summary_index_lt a.free.shape hi)
          ((congrArg (Prod.mk _) (if_pos h0).symm).trans result)
      · rename_i h0
        exact .handOut ((congrArg (Prod.mk _) (if_neg h0).symm).trans result)
    · -- an exchange that fails for no reason is tried again
      rw [Arena.withBits, if_neg word, if_pos (lowestBlock_eq hi ▸ block)]
      exact .takeBit hi region word block result
  | @scan region block i hr words before result =>
    rw [work_scan hnarrow, afterScan]
    rw [FreeMap.firstFreeFrom_of_lt words] at before
    split
    · rename_i h0
      rw [if_neg h0] at before
      rw [FreeMap.regionHasFree, before, Option.isSome_some, if_pos rfl] at result
      exact .handOut result
    · rename_i h0
      rw [if_pos (not_not.mp h0)] at before
      split
      · exact .scan hr ‹_› before result
      · rw [FreeMap.firstFreeFrom_of_le (Nat.le_of_not_lt ‹_›)] at before
        rw [FreeMap.regionHasFree, before, Option.isSome_none, if_neg Bool.false_ne_true] at result
        exact .clear hr before result
  | @clear region block hr empty result =>
    rw [work_clear hr]
    exact .beginRescan ((FreeMap.firstFreeWord_unmark _ hr region).trans empty) result
  | @rescan region block i words empty result =>
    have hword := FreeMap.lt_wordCount words.2
    have h0 : a.free.word i = 0 := by
      rw [FreeMap.word_eq hword]
      exact FreeMap.firstFreeWord_eq_none empty hword (FreeMap.regionOfWord_eq words.1 words.2)
    rw [work_scan hnarrow, afterScan, if_neg (not_not.mpr h0)]
    split
    · exact .rescan ⟨Nat.le_succ_of_le words.1, ‹_›⟩ empty result
    · exact .handOut result
  | answered result => exact .answered result
  | failed result => exact .failed result

end Comes

/-! ## Every call ends -/

/-- From a stage on, the call ends if it is left alone and no exchange fails for no reason. -/
inductive Ends : Arena → Stage → Prop where
  | answered (a : Arena) (answer : Option Nat) : Ends a (.answered answer)
  | step {a : Arena} {stage : Stage} (next : Ends (a.work stage false).1 (a.work stage false).2) : Ends a stage

namespace Ends

variable {block : Nat}

theorem handOut (h : a.Laid g) (hb : block < a.blockCount) : Ends a (a.handOut (block * a.blockSize)) := by
  rw [h.handOut_eq hb]
  exact .answered a _

theorem restore (h : a.Laid g) (hb : block < a.blockCount) : Ends a (.restore (block / blocksPerRegion) block) := by
  apply step
  rw [work_restore (FreeMap.summary_word_lt (region_lt hb)), h.handOut_eq hb]
  exact .answered _ _

/-- A scan ends if the call ends after a scan that has found no free block. -/
theorem scan (h : a.Laid g) (hb : block < a.blockCount) {cleared : Bool}
    (hnext : Ends a (a.endScan cleared (block / blocksPerRegion) block)) (n : Nat) : ∀ i,
    regionStop a.free.shape (block / blocksPerRegion) = i + n → Ends a (.scan cleared (block / blocksPerRegion) block i)
    := by
  induction n with
  | zero =>
    intro i hn
    apply step
    rw [work_scan h.narrow, afterScan, if_neg (by omega : ¬i + 1 < _)]
    split
    · cases cleared with
      | true => exact restore h hb
      | false => exact handOut h hb
    · exact hnext
  | succ n ih =>
    intro i hn
    apply step
    rw [work_scan h.narrow, afterScan]
    split
    · cases cleared with
      | true => exact restore h hb
      | false => exact handOut h hb
    · split
      · exact ih (i + 1) (by omega)
      · exact hnext

theorem beginScan (h : a.Laid g) (hb : block < a.blockCount) {cleared : Bool}
    (hnext : Ends a (a.endScan cleared (block / blocksPerRegion) block)) :
    Ends a (a.beginScan cleared (block / blocksPerRegion) block) := by
  obtain ⟨h1, h2⟩ := FreeMap.word_mem_region (word_lt hb)
  rw [beginScan_eq hb]
  exact scan h hb hnext _ _ (Nat.add_sub_of_le (by omega)).symm

theorem clear (h : a.Laid g) (hb : block < a.blockCount) : Ends a (.clear (block / blocksPerRegion) block) := by
  have hr := FreeMap.summary_word_lt (region_lt hb)
  have h' : ({ a with free := a.free.unmark _ hr } : Arena).Laid g := h.withFree rfl
  apply step
  rw [work_clear hr]
  exact beginScan h' hb (handOut h' hb)

/-- An exchange of a word that is as it was seen takes place. -/
theorem takeBit (h : a.Laid g) (hfree : ∀ i, a.free.isFree i = true → i < a.cursor) {q : Search} {i : Nat}
    (hi : regionStart (q.region a.free.shape) ≤ i ∧ i < regionStop a.free.shape (q.region a.free.shape))
    (h0 : a.free.word i ≠ 0) : Ends a (.takeBit q i (a.free.word i)) := by
  have hword := FreeMap.lt_wordCount hi.2
  have hne : a.free.words.get ⟨i, hword⟩ ≠ 0 := by
    rw [FreeMap.word_eq hword] at h0
    exact h0
  have hb := Nat.lt_of_lt_of_le (hfree _ (FreeMap.isFree_lowestBlock hne)) h.cursor_le
  have hregion : q.region a.free.shape = a.free.lowestBlock ⟨i, hword⟩ / blocksPerRegion :=
    (FreeMap.regionOfWord_eq hi.1 hi.2).symm.trans (FreeMap.lowestBlock_region hne).symm
  have h' : ({ a with free := a.free.putWord i (Word.dropLowest (a.free.word i)) } : Arena).Laid g := h.withFree rfl
  apply step
  rw [work_takeBit h.narrow, if_pos ⟨rfl, rfl⟩, afterTake, ← lowestBlock_eq hword, hregion]
  split
  · exact beginScan h' hb (clear h' hb)
  · exact handOut h' hb

/-- Looking through the words of a region ends if the call ends after a region without free blocks. -/
theorem loadWord (h : a.Laid g) (hfree : ∀ i, a.free.isFree i = true → i < a.cursor) {q : Search}
    (hnext : Ends a (a.follow { q with summary := Word.dropLowest q.summary })) (n : Nat) : ∀ i,
    regionStart (q.region a.free.shape) ≤ i ∧ i < regionStop a.free.shape (q.region a.free.shape) →
    regionStop a.free.shape (q.region a.free.shape) = i + n → Ends a (.loadWord q i) := by
  induction n with
  | zero => intro i hi hn; omega
  | succ n ih =>
    intro i hi hn
    have hword := FreeMap.lt_wordCount hi.2
    apply step
    rw [work_loadWord h.narrow, withBits]
    split
    · unfold nextWord
      split
      · exact ih (i + 1) ⟨Nat.le_succ_of_le hi.1, ‹_›⟩ (by omega)
      · exact hnext
    · rename_i h0
      rw [if_pos (h.lowest_lt hfree hword h0)]
      exact takeBit h hfree hi h0

theorem follow (h : a.Laid g) (hfree : ∀ i, a.free.isFree i = true → i < a.cursor) {start step : Nat}
    (hnext : Ends a (a.nextVisit start step)) (summary : UInt64) : Ends a (a.follow ⟨start, step, summary⟩) := by
  induction hn : summary.toNat using Nat.strongRecOn generalizing summary with
  | ind n ih =>
    rw [Arena.follow]
    split
    · exact hnext
    · rename_i h0
      have hrest := ih _ (hn ▸ Word.dropLowest_lt h0) (Word.dropLowest summary) rfl
      split
      · rename_i hwords
        exact loadWord h hfree hrest _ _ ⟨Nat.le_refl _, hwords⟩ (Nat.add_sub_of_le (Nat.le_of_lt hwords)).symm
      · exact hrest

theorem loadSummary (h : a.Laid g) (hfree : ∀ i, a.free.isFree i = true → i < a.cursor) (start n : Nat) : ∀ step,
    a.free.shape.summaryCount = step + n → Ends a (.loadSummary start step) := by
  induction n with
  | zero =>
    intro step hn
    apply Ends.step
    rw [work_loadSummary h.narrow]
    refine follow h hfree ?_ _
    rw [nextVisit, if_neg (by omega)]
    exact .answered a none
  | succ n ih =>
    intro step hn
    apply Ends.step
    rw [work_loadSummary h.narrow]
    refine follow h hfree ?_ _
    rw [nextVisit, if_pos (by omega)]
    exact ih (step + 1) (by omega)

/-- **An allocation that is left alone ends.** -/
theorem loadBump (h : a.Laid g) (hfree : ∀ i, a.free.isFree i = true → i < a.cursor) : Ends a .loadBump := by
  apply step
  rw [work_loadBump h.narrow, tryBump]
  split
  · rename_i hroom
    apply step
    rw [work_advance h hroom, if_pos ⟨rfl, rfl⟩, h.bump_eq, h.handOut_eq (h.bump_lt_iff.mp hroom)]
    exact .answered _ _
  · have h' : ({ a with free := a.free.searched } : Arena).Laid g := h.withFree rfl
    apply step
    rw [work_count]
    exact loadSummary h' hfree _ _ 0 (Nat.zero_add _).symm

end Ends

end Arena

end BlockHeap
