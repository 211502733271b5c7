import BlockHeap.Proofs.Threads.Stages

/-!
# What a step of a call does

A step of a call, carried out while the arena is laid out and its free blocks lie below the cursor, has an `Effect`
(`Laid.work_effect`). It says all that the invariants of shared arenas need to know about the step:

- how the blocks that the call has in hand change (`Transfer`): it may take a block, give one back, or keep what it has;
- that a summary bit is cleared only by a call that will look at the region again, and a block becomes free only through
  a call that will set the summary bit. `Stage.Covers` says for which free blocks a call will do so.
-/

namespace BlockHeap

namespace FreeMap

theorem word_mem_region {s : Shape} {i : Nat} (hi : i / bitsPerWord < s.wordCount) :
    regionStart (i / blocksPerRegion) ≤ i / bitsPerWord ∧
      i / bitsPerWord < regionStop s (i / blocksPerRegion) := by
  unfold regionStop regionStart blocksPerRegion wordsPerRegion bitsPerWord at *
  omega

theorem regionOfWord_eq {s : Shape} {r i : Nat} (h1 : regionStart r ≤ i) (h2 : i < regionStop s r) :
    regionOfWord i = r := by
  unfold regionStop regionStart wordsPerRegion at *
  unfold regionOfWord wordsPerRegion
  omega

theorem lt_wordCount {s : Shape} {r i : Nat} (h : i < regionStop s r) : i < s.wordCount :=
  Nat.lt_of_lt_of_le h (Nat.min_le_right _ _)

end FreeMap

namespace Arena

open FreeMap (regionStart regionStop blocksPerRegion bitsPerWord)

/-! ## Stages -/

/-- What a call remembers makes sense: it is in the words of the region that it follows, the blocks that it has to do
with exist, and no promise was broken. -/
def Stage.Valid (a : Arena) : Stage → Prop
  | .advance offset => offset < a.usable
  | .loadWord q i => regionStart (q.region a.free.shape) ≤ i ∧ i < regionStop a.free.shape (q.region a.free.shape)
  | .takeBit q i bits => (regionStart (q.region a.free.shape) ≤ i ∧
      i < regionStop a.free.shape (q.region a.free.shape)) ∧ bits ≠ 0
  | .scan _ region block i => (regionStart region ≤ i ∧ i < regionStop a.free.shape region) ∧
      region = block / blocksPerRegion ∧ block < a.blockCount
  | .clear region block => region = block / blocksPerRegion ∧ block < a.blockCount
  | .restore region block => region = block / blocksPerRegion ∧ block < a.blockCount
  | .giveBit block => block < a.blockCount
  | .giveMark block => block < a.blockCount
  | .failed _ => False
  | _ => True

/-- The addresses of the blocks that a call has in hand. -/
def Stage.blocks (a : Arena) : Stage → List Nat
  | .scan _ _ block _ => [a.address block]
  | .clear _ block => [a.address block]
  | .restore _ block => [a.address block]
  | .giveBit block => [a.address block]
  | .answered answer => answer.toList
  | _ => []

/-- If block `i` stays free, the call will set the summary bit of its region: it gave back a block there, or has cleared
the bit and not yet seen the word of the block again. -/
def Stage.Covers (i : Nat) : Stage → Prop
  | .giveMark block => block / blocksPerRegion = i / blocksPerRegion
  | .restore region _ => region = i / blocksPerRegion
  | .scan cleared region _ j => cleared = true ∧ region = i / blocksPerRegion ∧ j ≤ i / bitsPerWord
  | _ => False

/-- How the blocks in hand change, with the cursor and the free blocks. -/
inductive Transfer (a a' : Arena) : List Nat → List Nat → Prop where
  | keep {blocks : List Nat} (cursor : a'.cursor = a.cursor) (bits : ∀ j, a'.free.isFree j = a.free.isFree j) :
    Transfer a a' blocks blocks
  | gain {i : Nat} (cursor : ∀ j, j < a'.cursor ↔ j < a.cursor ∨ j = i)
    (new : a.cursor ≤ i ∨ a.free.isFree i = true)
    (bits : ∀ j, a'.free.isFree j = true ↔ a.free.isFree j = true ∧ j ≠ i) : Transfer a a' [] [a.address i]
  | lose {i : Nat} (cursor : a'.cursor = a.cursor)
    (bits : ∀ j, a'.free.isFree j = true ↔ j = i ∨ a.free.isFree j = true) : Transfer a a' [a.address i] []

/-- What a step does. -/
structure Effect (g : Geometry) (a : Arena) (st : Stage) (a' : Arena) (st' : Stage) : Prop where
  laid : a'.Laid g
  alike : a.Alike a'
  shape : a'.free.shape = a.free.shape
  valid : st'.Valid a
  transfer : Transfer a a' (st.blocks a) (st'.blocks a)
  marked_lt : ∀ r, a'.free.isMarked r = true → a.free.isMarked r = true ∨ r < a.free.shape.regionCount
  /-- A summary bit that is cleared is looked after. -/
  marked : ∀ i, a.free.isMarked (i / blocksPerRegion) = true →
    a'.free.isMarked (i / blocksPerRegion) = true ∨ st'.Covers i
  /-- A block that becomes free is looked after. -/
  freed : ∀ i, a'.free.isFree i = true → a.free.isFree i = true ∨ st'.Covers i
  /-- What was looked after still is, or is done. -/
  covers : ∀ i, a'.free.isFree i = true → st.Covers i →
    a'.free.isMarked (i / blocksPerRegion) = true ∨ st'.Covers i

variable {g : Geometry} {a : Arena} {st st' : Stage}

/-- A step that changes neither cursor nor free map bits. -/
theorem Effect.quiet (h : a.Laid g) (hvalid : st'.Valid a) (hblocks : st'.blocks a = st.blocks a)
    (hcovers : ∀ i, a.free.isFree i = true → st.Covers i →
      a.free.isMarked (i / blocksPerRegion) = true ∨ st'.Covers i) :
    Effect g a st a st' where
  laid := h
  alike := ⟨rfl, rfl, rfl, rfl, rfl⟩
  shape := rfl
  valid := hvalid
  transfer := by
    rw [hblocks]
    exact .keep rfl fun _ => rfl
  marked_lt _ hr := .inl hr
  marked _ hr := .inl hr
  freed _ hi := .inl hi
  covers := hcovers

/-- A step between two stages of a search. -/
theorem Effect.searching (h : a.Laid g) (hst : st.blocks a = []) (hcovers : ∀ i, ¬st.Covers i)
    (hvalid : st'.Valid a) (hblocks : st'.blocks a = []) : Effect g a st a st' :=
  .quiet h hvalid (hblocks.trans hst.symm) fun i _ hi => absurd hi (hcovers i)

/-! ## Where a call goes on -/

theorem tryBump_spec (a : Arena) (offset : Nat) :
    (a.tryBump offset).Valid a ∧ (a.tryBump offset).blocks a = [] := by
  unfold tryBump
  split
  · rename_i h
    exact ⟨h, rfl⟩
  · exact ⟨trivial, rfl⟩

theorem nextVisit_spec (a : Arena) (start step : Nat) :
    (a.nextVisit start step).Valid a ∧ (a.nextVisit start step).blocks a = [] := by
  unfold nextVisit
  split
  · exact ⟨trivial, rfl⟩
  · exact ⟨trivial, rfl⟩

theorem follow_spec (a : Arena) (q : Search) : (a.follow q).Valid a ∧ (a.follow q).blocks a = [] := by
  induction q using follow.induct a with
  | case1 q h0 =>
    rw [follow, dif_pos h0]
    exact a.nextVisit_spec _ _
  | case2 q h0 hwords =>
    rw [follow, dif_neg h0, if_pos hwords]
    exact ⟨⟨Nat.le_refl _, hwords⟩, rfl⟩
  | case3 q h0 hwords ih =>
    rw [follow, dif_neg h0, if_neg hwords]
    exact ih

theorem nextWord_spec {q : Search} {i : Nat} (h : regionStart (q.region a.free.shape) ≤ i) :
    (a.nextWord q i).Valid a ∧ (a.nextWord q i).blocks a = [] := by
  unfold nextWord
  split
  · rename_i hi
    exact ⟨⟨Nat.le_succ_of_le h, hi⟩, rfl⟩
  · exact a.follow_spec _

/-- A block that exists is handed out. -/
theorem Laid.handOut_eq (h : a.Laid g) {i : Nat} (hi : i < a.blockCount) :
    a.handOut (i * a.blockSize) = .answered (some (a.address i)) := by
  rw [handOut, h.blockAt_eq hi]

/-- Giving back a block that exists begins with its bit. -/
theorem Laid.beginRelease_eq (h : a.Laid g) {i : Nat} (hi : i < a.blockCount) :
    a.beginRelease (a.address i) = .giveBit i := by
  have hoffset : a.address i - a.base = i * a.blockSize := Nat.add_sub_cancel_left _ _
  rw [beginRelease, h.owns_address hi]
  simp only [hoffset, Nat.mul_mod_left, Nat.mul_div_cancel _ h.blockSize_pos, hi, Bool.not_true, Bool.false_eq_true,
    if_false, ne_eq, not_true_eq_false, if_true]

theorem word_lt {i : Nat} (hi : i < a.blockCount) : i / bitsPerWord < a.free.shape.wordCount :=
  FreeMap.word_index_lt hi

theorem region_lt {i : Nat} (hi : i < a.blockCount) : i / blocksPerRegion < a.free.shape.regionCount := by
  rw [← FreeMap.regionOfWord_div]
  exact FreeMap.region_lt_regionCount (word_lt hi)

/-- A scan begins at the first word of its region. -/
theorem beginScan_eq {block : Nat} (hb : block < a.blockCount) (cleared : Bool) :
    a.beginScan cleared (block / blocksPerRegion) block =
      .scan cleared (block / blocksPerRegion) block (regionStart (block / blocksPerRegion)) := by
  obtain ⟨h1, h2⟩ := FreeMap.word_mem_region (word_lt hb)
  rw [beginScan, if_pos (by omega)]

theorem lowestBlock_eq {i : Nat} (hi : i < a.free.shape.wordCount) :
    a.free.lowestBlock ⟨i, hi⟩ = i * bitsPerWord + Word.lowest (a.free.word i) := by
  rw [FreeMap.word_eq hi]
  rfl

/-- The lowest bit of a word that is not empty belongs to a block. -/
theorem Laid.lowest_lt (h : a.Laid g) (hfree : ∀ i, a.free.isFree i = true → i < a.cursor) {i : Nat}
    (hi : i < a.free.shape.wordCount) (h0 : a.free.word i ≠ 0) :
    i * bitsPerWord + Word.lowest (a.free.word i) < a.blockCount := by
  have hne : a.free.words.get ⟨i, hi⟩ ≠ 0 := by
    rw [FreeMap.word_eq hi] at h0
    exact h0
  rw [← lowestBlock_eq hi]
  exact Nat.lt_of_lt_of_le (hfree _ (FreeMap.isFree_lowestBlock hne)) h.cursor_le

/-- What was seen in a word is a block, as long as it is there. -/
theorem Laid.withBits_spec (h : a.Laid g) (hfree : ∀ i, a.free.isFree i = true → i < a.cursor) {q : Search} {i : Nat}
    (hi : regionStart (q.region a.free.shape) ≤ i ∧ i < regionStop a.free.shape (q.region a.free.shape)) :
    (a.withBits q i (a.free.word i)).Valid a ∧ (a.withBits q i (a.free.word i)).blocks a = [] := by
  unfold withBits
  split
  · exact nextWord_spec hi.1
  · rename_i h0
    rw [if_pos (h.lowest_lt hfree (FreeMap.lt_wordCount hi.2) h0)]
    exact ⟨⟨hi, h0⟩, rfl⟩

/-! ## Taking blocks -/

theorem Laid.effect_loadBump (h : a.Laid g) (spurious : Bool) :
    Effect g a .loadBump (a.work .loadBump spurious).1 (a.work .loadBump spurious).2 := by
  rw [work_loadBump h.narrow]
  obtain ⟨h1, h2⟩ := a.tryBump_spec a.bump
  exact .searching h rfl (fun _ => id) h1 h2

/-- Moving the cursor on takes the block at the cursor. -/
theorem Laid.effect_advance (h : a.Laid g) (hfree : ∀ i, a.free.isFree i = true → i < a.cursor) {offset : Nat}
    (hv : offset < a.usable) (spurious : Bool) :
    Effect g a (.advance offset) (a.work (.advance offset) spurious).1 (a.work (.advance offset) spurious).2 := by
  rw [work_advance h hv]
  split
  · rename_i heq
    obtain ⟨-, rfl⟩ := heq
    have hc := h.bump_lt_iff.mp hv
    rw [h.bump_eq, h.handOut_eq hc]
    constructor
    case laid => exact h.advanced hc
    case alike => exact Sound.alike_advanced a
    case shape => rfl
    case valid => trivial
    case transfer =>
      refine .gain (fun j => ?_) (.inl (Nat.le_refl _)) fun j => ?_
      · rw [h.cursor_advanced]
        exact Nat.lt_succ_iff_lt_or_eq
      · exact ⟨fun hj => ⟨hj, Nat.ne_of_lt (hfree j hj)⟩, fun hj => hj.1⟩
    case marked_lt => exact fun _ => .inl
    case marked => exact fun _ => .inl
    case freed => exact fun _ => .inl
    case covers => exact fun _ _ hi => nomatch hi
  · obtain ⟨h1, h2⟩ := a.tryBump_spec a.bump
    exact .searching h rfl (fun _ => id) h1 h2

/-- Counting a search. -/
theorem Laid.effect_count (h : a.Laid g) (spurious : Bool) :
    Effect g a .count (a.work .count spurious).1 (a.work .count spurious).2 := by
  rw [work_count]
  constructor
  case laid => exact h.withFree rfl
  case alike => exact ⟨rfl, rfl, rfl, rfl, rfl⟩
  case shape => rfl
  case valid => trivial
  case transfer => exact .keep rfl fun _ => rfl
  case marked_lt => exact fun _ => .inl
  case marked => exact fun _ => .inl
  case freed => exact fun _ => .inl
  case covers => exact fun _ _ hi => nomatch hi

/-- Taking the lowest bit of a word takes a free block. -/
theorem Laid.effect_takeBit (h : a.Laid g) (hfree : ∀ i, a.free.isFree i = true → i < a.cursor) {q : Search} {i : Nat}
    {bits : UInt64} (hv : (Stage.takeBit q i bits).Valid a) (spurious : Bool) :
    Effect g a (.takeBit q i bits) (a.work (.takeBit q i bits) spurious).1 (a.work (.takeBit q i bits) spurious).2 := by
  obtain ⟨hi, hbits⟩ := hv
  rw [work_takeBit h.narrow]
  split
  · rename_i heq
    have hword := FreeMap.lt_wordCount hi.2
    have hget : a.free.words.get ⟨i, hword⟩ = bits := by
      rw [← heq.2, FreeMap.word_eq hword]
      rfl
    have hne : a.free.words.get ⟨i, hword⟩ ≠ 0 := by
      rw [hget]
      exact hbits
    -- the block taken
    obtain ⟨block, hblock⟩ : ∃ block, i * bitsPerWord + Word.lowest bits = block := ⟨_, rfl⟩
    have hlowest : a.free.lowestBlock ⟨i, hword⟩ = block := by
      rw [← hblock, FreeMap.lowestBlock, hget]
    have hisFree : a.free.isFree block = true := by
      rw [← hlowest]
      exact FreeMap.isFree_lowestBlock hne
    have hlt : block < a.blockCount := Nat.lt_of_lt_of_le (hfree _ hisFree) h.cursor_le
    have hregion : q.region a.free.shape = block / blocksPerRegion := by
      rw [← FreeMap.regionOfWord_eq hi.1 hi.2, ← hlowest]
      exact (FreeMap.lowestBlock_region hne).symm
    have hbit : ∀ j, (a.free.putWord i (Word.dropLowest bits)).isFree j = true ↔
        a.free.isFree j = true ∧ j ≠ block := by
      intro j
      rw [FreeMap.putWord_eq hword, ← hget, FreeMap.isFree_setWord_dropLowest hne, hlowest]
    have hmark : ∀ r, (a.free.putWord i (Word.dropLowest bits)).isMarked r = a.free.isMarked r := by
      intro r
      rw [FreeMap.putWord_eq hword, FreeMap.isMarked_setWord]
    have hstage : (a.afterTake q i bits).Valid a ∧ (a.afterTake q i bits).blocks a = [a.address block] := by
      unfold afterTake
      rw [hblock]
      split
      · obtain ⟨h1, h2⟩ := FreeMap.word_mem_region (word_lt hlt)
        rw [hregion, beginScan_eq hlt]
        exact ⟨⟨⟨Nat.le_refl _, by omega⟩, rfl, hlt⟩, rfl⟩
      · rw [h.handOut_eq hlt]
        exact ⟨trivial, rfl⟩
    constructor
    case laid => exact h.withFree rfl
    case alike => exact ⟨rfl, rfl, rfl, rfl, rfl⟩
    case shape => rfl
    case valid => exact hstage.1
    case transfer =>
      rw [hstage.2]
      refine .gain (fun j => ?_) (.inr hisFree) hbit
      exact ⟨.inl, fun hj => hj.elim id fun heq => heq ▸ hfree _ hisFree⟩
    case marked_lt => exact fun r hr => .inl (hmark r ▸ hr)
    case marked => exact fun j hj => .inl ((hmark _).trans hj)
    case freed => exact fun j hj => .inl ((hbit j).mp hj).1
    case covers => exact fun _ _ => False.elim
  · obtain ⟨h1, h2⟩ := h.withBits_spec hfree hi
    exact .searching h rfl (fun _ => id) h1 h2

/-! ## The summary bit of a region whose last free block was taken -/

/-- Reading a word in a scan. -/
theorem Laid.effect_scan (h : a.Laid g) {cleared : Bool} {region block i : Nat}
    (hv : (Stage.scan cleared region block i).Valid a) (spurious : Bool) :
    Effect g a (.scan cleared region block i) (a.work (.scan cleared region block i) spurious).1
      (a.work (.scan cleared region block i) spurious).2 := by
  obtain ⟨⟨h1, h2⟩, rfl, hb⟩ := hv
  have hword := FreeMap.lt_wordCount h2
  rw [work_scan h.narrow, afterScan]
  split
  · -- a word that is not empty
    cases cleared with
    | true => exact .quiet h ⟨rfl, hb⟩ rfl fun j _ hj => .inr hj.2.1
    | false =>
      rw [if_neg Bool.false_ne_true, h.handOut_eq hb]
      exact .quiet h trivial rfl fun j _ hj => nomatch hj.1
  · rename_i h0
    -- an empty word: the free blocks that are looked after lie in later words
    have hlater : ∀ j, a.free.isFree j = true → i ≤ j / bitsPerWord → i + 1 ≤ j / bitsPerWord := by
      intro j hj hle
      refine Nat.lt_of_le_of_ne hle fun heq => ?_
      rw [not_not, FreeMap.word_eq hword, FreeMap.word_eq_zero_iff _ hword] at h0
      rw [h0 j heq.symm] at hj
      cases hj
    split
    · rename_i hnext
      refine .quiet h ⟨⟨Nat.le_succ_of_le h1, hnext⟩, rfl, hb⟩ rfl fun j hfree hj => ?_
      exact .inr ⟨hj.1, hj.2.1, hlater j hfree hj.2.2⟩
    · rename_i hlast
      rw [endScan]
      cases cleared with
      | true =>
        rw [if_pos rfl, h.handOut_eq hb]
        refine .quiet h trivial rfl fun j hfree hj => ?_
        have hin := (FreeMap.word_mem_region (FreeMap.lt_of_isFree hfree)).2
        rw [← hj.2.1] at hin
        have := hlater j hfree hj.2.2
        omega
      | false => exact .quiet h ⟨rfl, hb⟩ rfl fun j _ hj => nomatch hj.1

/-- Clearing a summary bit. -/
theorem Laid.effect_clear (h : a.Laid g) {region block : Nat} (hv : (Stage.clear region block).Valid a)
    (spurious : Bool) :
    Effect g a (.clear region block) (a.work (.clear region block) spurious).1
      (a.work (.clear region block) spurious).2 := by
  obtain ⟨rfl, hb⟩ := hv
  obtain ⟨h1, h2⟩ := FreeMap.word_mem_region (word_lt hb)
  rw [work_clear (FreeMap.summary_word_lt (region_lt hb)), beginScan_eq hb]
  constructor
  case laid => exact h.withFree rfl
  case alike => exact ⟨rfl, rfl, rfl, rfl, rfl⟩
  case shape => rfl
  case valid => exact ⟨⟨Nat.le_refl _, by omega⟩, rfl, hb⟩
  case transfer => exact .keep rfl fun _ => rfl
  case marked_lt => exact fun r hr => .inl ((FreeMap.isMarked_unmark _ _ r).mp hr).2
  case marked =>
    intro i hi
    by_cases hr : i / blocksPerRegion = block / blocksPerRegion
    · refine .inr ⟨rfl, hr.symm, ?_⟩
      rw [← hr]
      unfold regionStart FreeMap.wordsPerRegion blocksPerRegion FreeMap.wordsPerRegion bitsPerWord
      omega
    · exact .inl ((FreeMap.isMarked_unmark _ _ _).mpr ⟨hr, hi⟩)
  case freed => exact fun _ => .inl
  case covers => exact fun _ _ hi => nomatch hi

/-- Setting a summary bit. -/
theorem Effect.mark (h : a.Laid g) {region : Nat} (hr : region < a.free.shape.regionCount) (hvalid : st'.Valid a)
    (hblocks : st'.blocks a = st.blocks a) (hcovers : ∀ i, st.Covers i → region = i / blocksPerRegion) :
    Effect g a st { a with free := a.free.mark region (FreeMap.summary_word_lt hr) } st' where
  laid := h.withFree rfl
  alike := ⟨rfl, rfl, rfl, rfl, rfl⟩
  shape := rfl
  valid := hvalid
  transfer := by
    rw [hblocks]
    exact .keep rfl fun _ => rfl
  marked_lt r hmarked := ((FreeMap.isMarked_mark _ _ r).mp hmarked).elim (fun heq => .inr (heq ▸ hr)) .inl
  marked _ hi := .inl ((FreeMap.isMarked_mark _ _ _).mpr (.inr hi))
  freed _ hi := .inl hi
  covers i _ hi := .inl ((FreeMap.isMarked_mark _ _ _).mpr (.inl (hcovers i hi).symm))

theorem Laid.effect_restore (h : a.Laid g) {region block : Nat} (hv : (Stage.restore region block).Valid a)
    (spurious : Bool) :
    Effect g a (.restore region block) (a.work (.restore region block) spurious).1
      (a.work (.restore region block) spurious).2 := by
  obtain ⟨rfl, hb⟩ := hv
  rw [work_restore (FreeMap.summary_word_lt (region_lt hb)), h.handOut_eq hb]
  exact .mark h (region_lt hb) trivial rfl fun _ hi => hi

/-! ## Giving blocks back -/

/-- Setting the bit of a block. -/
theorem Laid.effect_giveBit (h : a.Laid g) {block : Nat} (hb : block < a.blockCount)
    (hbit : a.free.isFree block = false) (spurious : Bool) :
    Effect g a (.giveBit block) (a.work (.giveBit block) spurious).1 (a.work (.giveBit block) spurious).2 := by
  rw [work_giveBit (word_lt hb), hbit]
  have hset : ∀ j, (a.free.addBlock block (word_lt hb)).isFree j = true ↔ j = block ∨ a.free.isFree j = true :=
    FreeMap.isFree_addBlock a.free (word_lt hb)
  constructor
  case laid => exact h.withFree rfl
  case alike => exact ⟨rfl, rfl, rfl, rfl, rfl⟩
  case shape => rfl
  case valid => exact hb
  case transfer => exact .lose rfl hset
  case marked_lt => exact fun _ => .inl
  case marked => exact fun _ => .inl
  case freed =>
    intro i hi
    rcases (hset i).mp hi with rfl | hi
    · exact .inr rfl
    · exact .inl hi
  case covers => exact fun _ _ hi => nomatch hi

theorem Laid.effect_giveMark (h : a.Laid g) {block : Nat} (hb : block < a.blockCount) (spurious : Bool) :
    Effect g a (.giveMark block) (a.work (.giveMark block) spurious).1 (a.work (.giveMark block) spurious).2 := by
  have hr := FreeMap.region_lt_regionCount (word_lt hb)
  rw [work_giveMark (FreeMap.summary_word_lt hr)]
  refine .mark h hr trivial rfl fun i hi => ?_
  rw [FreeMap.regionOfWord_div]
  exact hi

/-- **Every step has an effect**, as long as the free blocks lie below the cursor and the blocks in hand are not
free. -/
theorem Laid.work_effect (h : a.Laid g) (hfree : ∀ i, a.free.isFree i = true → i < a.cursor) (hv : st.Valid a)
    (hown : ∀ x ∈ st.blocks a, ∃ i < a.cursor, x = a.address i ∧ a.free.isFree i = false) (spurious : Bool) :
    Effect g a st (a.work st spurious).1 (a.work st spurious).2 := by
  cases st with
  | idle => exact .quiet h trivial rfl fun _ _ => .inr
  | loadBump => exact h.effect_loadBump spurious
  | advance offset => exact h.effect_advance hfree hv spurious
  | count => exact h.effect_count spurious
  | loadSummary start step =>
    rw [work_loadSummary h.narrow]
    obtain ⟨h1, h2⟩ := a.follow_spec _
    exact .searching h rfl (fun _ => id) h1 h2
  | loadWord q i =>
    rw [work_loadWord h.narrow]
    obtain ⟨h1, h2⟩ := h.withBits_spec hfree hv
    exact .searching h rfl (fun _ => id) h1 h2
  | takeBit q i bits => exact h.effect_takeBit hfree hv spurious
  | scan cleared region block i => exact h.effect_scan hv spurious
  | clear region block => exact h.effect_clear hv spurious
  | restore region block => exact h.effect_restore hv spurious
  | giveBit block =>
    obtain ⟨i, -, heq, hbit⟩ := hown _ List.mem_cons_self
    rw [← h.address_injective heq] at hbit
    exact h.effect_giveBit hv hbit spurious
  | giveMark block => exact h.effect_giveMark hv spurious
  | answered answer => exact .quiet h trivial rfl fun _ _ => .inr
  | released => exact .quiet h trivial rfl fun _ _ => .inr
  | failed f => exact hv.elim

end Arena

end BlockHeap
