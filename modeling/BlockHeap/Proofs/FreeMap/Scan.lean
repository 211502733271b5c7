import BlockHeap.Proofs.FreeMap.Exact
import Mathlib.Data.List.Nodup

/-!
# What a search asks

The search of a free map is run with questions that are recorded (`recorded`). It finds the same as without a record
(`claimTold_snd`). The record is the list of the regions asked: the candidates of the search, up to the first that has a
free block (`claimTold_fst`), and no region twice.

This is so for all contents of the words, also where summary bits are stale: a region may be marked without having a
free block, which is then asked in vain, or have free blocks without being marked, which are then left where they are.
`claim_scan` says what a search for a block comes to.
-/

namespace BlockHeap

section Records

variable {α β : Type}

/-- A question of which a record is kept. -/
def recorded (f : β → Option α) (b : β) : StateM (List β) (Option α) := do
  modify (· ++ [b])
  return f b

/-- The elements of a list up to the first about which `f` has an answer. -/
def asked (f : β → Option α) (l : List β) : List β :=
  l.takeWhile (fun b => !(f b).isSome) ++ (l.find? fun b => (f b).isSome).toList

variable (f : β → Option α)

theorem asked_cons_some {b : β} {a : α} (h : f b = some a) (l : List β) : asked f (b :: l) = [b] := by
  rw [asked, List.takeWhile_cons_of_neg (by simp [h]), List.find?_cons_of_pos (by simp [h])]
  rfl

theorem asked_cons_none {b : β} (h : f b = none) (l : List β) : asked f (b :: l) = b :: asked f l := by
  rw [asked, List.takeWhile_cons_of_pos (by simp [h]), List.find?_cons_of_neg (by simp [h]), asked, List.cons_append]

/-- Nothing is asked beside the list, nor in another order. -/
theorem asked_sublist (l : List β) : (asked f l).Sublist l := by
  induction l with
  | nil => exact .slnil
  | cons b l ih =>
    cases hb : f b with
    | some a =>
      rw [asked_cons_some f hb]
      exact (List.nil_sublist l).cons_cons b
    | none =>
      rw [asked_cons_none f hb]
      exact ih.cons_cons b

/-- **A record changes no answer**, and tells what was asked. -/
theorem findSomeM?_recorded (l : List β) : ∀ log, (l.findSomeM? (recorded f)).run log =
    (l.findSome? f, log ++ asked f l) := by
  induction l with
  | nil =>
    intro log
    exact congrArg (Prod.mk none) (List.append_nil log).symm
  | cons b l ih =>
    intro log
    have hask : (recorded f b).run log = (f b, log ++ [b]) := rfl
    rw [List.findSomeM?_cons, StateT.run_bind, hask, List.findSome?_cons]
    cases hb : f b with
    | some a =>
      rw [asked_cons_some f hb]
      rfl
    | none =>
      rw [asked_cons_none f hb]
      exact (ih (log ++ [b])).trans (congrArg (Prod.mk _) (List.append_cons log b _).symm)

/-- The answer is that of the first element with an answer. -/
theorem findSome?_of_find? {l : List β} {b : β} (h : (l.find? fun b => (f b).isSome) = some b) :
    l.findSome? f = f b := by
  induction l with
  | nil => cases h
  | cons c l ih =>
    rw [List.find?_cons] at h
    rw [List.findSome?_cons]
    cases hc : f c with
    | some a =>
      rw [hc] at h
      cases h
      exact hc.symm
    | none =>
      rw [hc] at h
      exact ih h

end Records

namespace FreeMap

/-! ## Searches that tell what they ask -/

/-- Takes a free block, if there is one, and tells the regions asked. -/
def claimTold (m : FreeMap) : List Nat × (Except Fault (Option Nat) × FreeMap) :=
  let r := (m.searchM (recorded m.firstFreeWord)).run []
  (r.2, m.conclude r.1)

variable {m : FreeMap}

/-- **What a search asks does not change what it finds**, whatever the contents of the words. -/
theorem claimTold_snd (m : FreeMap) : m.claimTold.2 = m.claim := by
  rw [claimTold, searchM, searchFromM_eq, findSomeM?_recorded, claim, search_eq_searchFrom, searchFrom]

/-- **A search asks its candidates**, up to the first answer. -/
theorem claimTold_fst (hmarked : ∀ r, m.shape.regionCount ≤ r → m.isMarked r = false) :
    m.claimTold.1 = asked m.firstFreeWord m.candidates := by
  rw [claimTold, searchM_eq m _ hmarked, findSomeM?_recorded, List.nil_append]

theorem nodup_cyclic {n start : Nat} (h : start < n) : (cyclic n start).Nodup := by
  rw [cyclic_eq h]
  refine List.nodup_append.mpr ⟨List.nodup_range', List.nodup_range', fun i hi j hj => ?_⟩
  have := (mem_span.mp hi).1
  have := (mem_span.mp hj).2
  omega

theorem nodup_candidates (m : FreeMap) : m.candidates.Nodup := (nodup_cyclic (startRegion_lt m)).filter _

/-- The candidates are the marked regions. -/
theorem mem_candidates (hmarked : ∀ r, m.shape.regionCount ≤ r → m.isMarked r = false) {r : Nat} :
    r ∈ m.candidates ↔ m.isMarked r = true := by
  rw [candidates, List.mem_filter, mem_cyclic (startRegion_lt m), and_iff_right_iff_imp]
  intro h
  refine Nat.lt_of_not_le fun hle => ?_
  rw [hmarked r hle] at h
  cases h

/-! ## What comes of a search -/

/-- The block that is found in a region is its smallest free one. -/
theorem firstFreeWord_least {r : Nat} {w : Fin m.shape.wordCount} (h : m.firstFreeWord r = some w) :
    m.lowestBlock w / blocksPerRegion = r ∧ m.isFree (m.lowestBlock w) = true ∧
      ∀ i < m.lowestBlock w, i / blocksPerRegion = r → m.isFree i = false := by
  obtain ⟨hregion, hne, -⟩ := firstFreeWord_eq_some h
  refine ⟨(lowestBlock_region hne).trans hregion, isFree_lowestBlock hne, fun i hi hir => ?_⟩
  have hblock := firstFreeWord_block m r
  rw [h, Option.map_some, eq_comm, List.find?_range'_eq_some] at hblock
  have hstart : r * blocksPerRegion ≤ i := by
    rw [← hir]
    exact Nat.div_mul_le_self i _
  simpa using hblock.2.2 i hstart hi

/-- A search whose candidates are all empty changes no word. -/
theorem claim_of_find?_eq_none (hmarked : ∀ r, m.shape.regionCount ≤ r → m.isMarked r = false)
    (h : m.candidates.find? m.regionHasFree = none) : m.claim = (.ok none, m.searched) := by
  have hsearch : m.search = none := by
    rw [search_eq_candidates m hmarked, List.findSome?_eq_none_iff]
    intro r hr
    simpa [regionHasFree] using List.find?_eq_none.mp h r hr
  rw [claim, hsearch]
  rfl

/-- A search takes the smallest free block of the first candidate that has one. -/
theorem claim_of_find?_eq_some (hmarked : ∀ r, m.shape.regionCount ≤ r → m.isMarked r = false)
    (hfree : ∀ i, m.blockCount ≤ i → m.isFree i = false) {r : Nat}
    (h : m.candidates.find? m.regionHasFree = some r) :
    ∃ i n, m.claim = (.ok (some i), n) ∧ i / blocksPerRegion = r ∧ m.isFree i = true ∧
      (∀ j < i, j / blocksPerRegion = r → m.isFree j = false) ∧ m.Alike n ∧ n.searches = m.searches + 1 ∧
      (∀ j, n.isFree j = true ↔ m.isFree j = true ∧ j ≠ i) ∧
      ∀ q, n.isMarked q = true ↔
        m.isMarked q = true ∧ (q = r → ∃ j, j / blocksPerRegion = r ∧ n.isFree j = true) := by
  have hsearch : m.search = m.firstFreeWord r := by
    rw [search_eq_candidates m hmarked]
    exact findSome?_of_find? m.firstFreeWord h
  obtain ⟨w, hw⟩ : ∃ w, m.firstFreeWord r = some w :=
    Option.isSome_iff_exists.mp (List.find?_some h : m.regionHasFree r = true)
  obtain ⟨hregion, hne, -⟩ := firstFreeWord_eq_some hw
  obtain ⟨hblock, hisFree, hleast⟩ := firstFreeWord_least hw
  have hlt : m.lowestBlock w < m.blockCount := Nat.lt_of_not_le fun hle => by
    rw [hfree _ hle] at hisFree
    cases hisFree
  obtain ⟨n, htake, hfreeN, hmarkN, halike, hsearches⟩ := take_lowest (m := m.searched) hne hlt
  have hclaim : m.claim = (.ok (some (m.lowestBlock w)), n) := by
    have htake' : FreeMap.take { m with searches := m.searches + 1 } w = (.ok (m.lowestBlock w), n) := htake
    rw [claim, hsearch, hw, conclude]
    simp only [htake']
    rfl
  refine ⟨m.lowestBlock w, n, hclaim, hblock, hisFree, hleast, ⟨halike.shape, halike.blockCount⟩, hsearches, hfreeN,
    fun q => (hmarkN q).trans (and_congr_right fun _ => ?_)⟩
  rw [hregion]
  exact forall_congr' fun hq => by rw [hq]

/-- **A search asks every marked region at most once**, in cyclic order from its start, also over stale summary bits.
It asks up to the first that has a free block and takes the smallest block there; no other bit of a block changes, and
the region loses its summary bit when that was its last free block. A search finds nothing when no marked region has a
free block, and changes no word then. -/
theorem claim_scan (hmarked : ∀ r, m.shape.regionCount ≤ r → m.isMarked r = false)
    (hfree : ∀ i, m.blockCount ≤ i → m.isFree i = false) :
    ∃ tried, m.claimTold = (tried, m.claim) ∧ tried.Nodup ∧
      tried = m.candidates.takeWhile (fun r => !m.regionHasFree r) ++ (m.candidates.find? m.regionHasFree).toList ∧
      (m.claim.1 = .ok none ↔ ∀ i, m.isMarked (i / blocksPerRegion) = true → m.isFree i = false) ∧
      ((m.candidates.find? m.regionHasFree = none ∧
        m.claim = (.ok none, { m with searches := m.searches + 1 })) ∨
      ∃ r i n, m.candidates.find? m.regionHasFree = some r ∧ m.claim = (.ok (some i), n) ∧
        i / blocksPerRegion = r ∧ m.isFree i = true ∧
        (∀ j < i, j / blocksPerRegion = r → m.isFree j = false) ∧ m.Alike n ∧ n.searches = m.searches + 1 ∧
        (∀ j, n.isFree j = true ↔ m.isFree j = true ∧ j ≠ i) ∧
        ∀ q, n.isMarked q = true ↔
          m.isMarked q = true ∧ (q = r → ∃ j, j / blocksPerRegion = r ∧ n.isFree j = true)) := by
  refine ⟨m.claimTold.1, Prod.ext rfl (claimTold_snd m), ?_, claimTold_fst hmarked, ?_, ?_⟩
  · rw [claimTold_fst hmarked]
    exact (nodup_candidates m).sublist (asked_sublist _ _)
  · constructor
    · intro hnone i hi
      cases h : m.candidates.find? m.regionHasFree with
      | none =>
        have hempty := List.find?_eq_none.mp h _ ((mem_candidates hmarked).mpr hi)
        rw [regionHasFree_iff] at hempty
        rw [← Bool.not_eq_true]
        exact fun hf => hempty ⟨i, rfl, hf⟩
      | some r =>
        obtain ⟨j, n, hclaim, -⟩ := claim_of_find?_eq_some hmarked hfree h
        rw [hclaim] at hnone
        cases hnone
    · intro hempty
      rw [claim_of_find?_eq_none hmarked]
      refine List.find?_eq_none.mpr fun r hr hhas => ?_
      obtain ⟨i, rfl, hi⟩ := (regionHasFree_iff m r).mp hhas
      rw [hempty i ((mem_candidates hmarked).mp hr)] at hi
      cases hi
  · cases h : m.candidates.find? m.regionHasFree with
    | none => exact .inl ⟨rfl, claim_of_find?_eq_none hmarked h⟩
    | some r =>
      obtain ⟨i, n, hclaim⟩ := claim_of_find?_eq_some hmarked hfree h
      exact .inr ⟨r, i, n, rfl, hclaim⟩

/-- Three regions: the first has a free block and is not marked, the second is marked and has none, the third is marked
and has one. -/
def staleMap : FreeMap where
  shape := ⟨130, by decide⟩
  blockCount := 8292
  words := ((Vector.replicate 130 0).set 5 1).set 129 (Word.bit 35)
  summary := Vector.replicate _ 6
  searches := 4
  blockCount_le := by decide

/-- A search from the second region of `staleMap` asks it in vain, and empties the third. The block of the first region
stays where it is. -/
theorem claim_scan_stale : Shape.ofBlocks 8292 = .ok staleMap.shape ∧
    (∀ r, staleMap.shape.regionCount ≤ r → staleMap.isMarked r = false) ∧
    (∀ i, staleMap.blockCount ≤ i → staleMap.isFree i = false) ∧
    ∃ n, staleMap.claimTold = ([1, 2], .ok (some 8291), n) ∧ n.isMarked 2 = false ∧ n.isMarked 1 = true ∧
      n.isFree 320 = true ∧ n.isMarked 0 = false := by
  have hmarked : ∀ r, 3 ≤ r → staleMap.isMarked r = false := by
    intro r hr
    rcases Nat.lt_or_ge r 64 with hlt | hge
    · have hlow : ∀ r < 64, 3 ≤ r → staleMap.isMarked r = false := by decide +kernel
      exact hlow r hlt hr
    · have hout : ¬r / bitsPerWord < 1 := by
        unfold bitsPerWord
        omega
      exact dif_neg hout
  have hfree : ∀ i, 8292 ≤ i → staleMap.isFree i = false := by
    intro i hi
    rcases Nat.lt_or_ge i 8320 with hlt | hge
    · have hlow : ∀ d < 28, staleMap.isFree (8292 + d) = false := by decide +kernel
      have hd := hlow (i - 8292) (by omega)
      rwa [Nat.add_sub_cancel' hi] at hd
    · have hout : ¬i / bitsPerWord < 130 := by
        unfold bitsPerWord
        omega
      exact dif_neg hout
  have honly : ∀ j, j / blocksPerRegion = 2 → staleMap.isFree j = true → j = 8291 := by
    intro j hj hf
    have hlow : ∀ d < 100, staleMap.isFree (8192 + d) = true → d = 99 := by decide +kernel
    have hlt : j < 8292 := Nat.lt_of_not_le fun hle => by
      rw [hfree j hle] at hf
      cases hf
    have hge : 8192 ≤ j := by
      unfold blocksPerRegion wordsPerRegion bitsPerWord at hj
      omega
    rw [← Nat.add_sub_cancel' hge] at hf
    have := hlow (j - 8192) (by omega) hf
    omega
  have hcandidates : staleMap.candidates = [1, 2] := by decide +kernel
  have hsecond : staleMap.regionHasFree 1 = false := by decide +kernel
  have hthird : staleMap.regionHasFree 2 = true := by decide +kernel
  have hfind : staleMap.candidates.find? staleMap.regionHasFree = some 2 := by
    simp [hcandidates, hsecond, hthird]
  obtain ⟨tried, htold, -, htried, -, ⟨hnone, -⟩ | ⟨r, i, n, hr, hclaim, hir, hi, -, -, -, hfreeN, hmarkN⟩⟩ :=
    claim_scan (m := staleMap) hmarked hfree
  · rw [hfind] at hnone
    cases hnone
  rw [hfind] at hr
  obtain rfl := Option.some.inj hr
  obtain rfl := honly i hir hi
  refine ⟨rfl, hmarked, hfree, n, ?_, ?_, ?_, ?_, ?_⟩
  · rw [htold, htried, hfind, hclaim, hcandidates]
    simp [hsecond, hthird]
  · rw [← Bool.not_eq_true, hmarkN]
    rintro ⟨-, hlast⟩
    obtain ⟨j, hj, hf⟩ := hlast rfl
    obtain ⟨hjf, hne⟩ := (hfreeN j).mp hf
    exact hne (honly j hj hjf)
  · exact (hmarkN 1).mpr ⟨by decide +kernel, fun h => absurd h (by decide)⟩
  · exact (hfreeN 320).mpr ⟨by decide +kernel, by decide⟩
  · rw [← Bool.not_eq_true, hmarkN]
    exact fun h => absurd h.1 (by decide +kernel)

end FreeMap

end BlockHeap
