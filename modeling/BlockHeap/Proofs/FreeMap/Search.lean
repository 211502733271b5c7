import BlockHeap.Proofs.FreeMap.Bits

/-!
# The order of a search

A search asks the marked regions one after the other, in cyclic order from its start (`search_eq_candidates`). This
holds for all contents of the two levels, as long as no summary bit is set behind the last region: `look m r` is what a
search learns about region `r`, be its summary bit right or stale (`search_eq`). It holds whatever is asked, and
whichever effects the questions have (`searchM_eq`).

The proof follows the visits of a search: one visit may ask the marked regions of a span of one summary word
(`visited_eq`), the visits between the first and the last those of all their words (`visited_words`), and the two
visits of the start word share its regions between them (`visited_all`).
-/

namespace BlockHeap.FreeMap

/-! ## Spans and cyclic order -/

/-- The numbers from `lo` on that are below `hi`. -/
def span (lo hi : Nat) : List Nat := List.range' lo (hi - lo)

theorem mem_span {lo hi i : Nat} : i ∈ span lo hi ↔ lo ≤ i ∧ i < hi := by
  rw [span, List.mem_range'_1]
  omega

theorem span_append {a b c : Nat} (h1 : a ≤ b) (h2 : b ≤ c) : span a b ++ span b c = span a c := by
  have h := List.range'_append_1 (s := a) (m := b - a) (n := c - b)
  rw [Nat.add_sub_of_le h1] at h
  rw [span, span, span, h]
  congr 1
  omega

theorem span_add (d lo hi : Nat) : (span lo hi).map (d + ·) = span (d + lo) (d + hi) := by
  rw [span, span, List.map_add_range', Nat.add_sub_add_left]

theorem span_zero (n : Nat) : span 0 n = List.range n := by
  rw [span, Nat.sub_zero, List.range_eq_range']

/-- The numbers below `n` in cyclic order from `start` on. -/
def cyclic (n start : Nat) : List Nat := (List.range n).map fun k => (start + k) % n

theorem cyclic_eq {n start : Nat} (h : start < n) : cyclic n start = span start n ++ span 0 start := by
  have hfront : (span 0 (n - start)).map (fun k => (start + k) % n) = span start n := by
    have hadd := span_add start 0 (n - start)
    rw [Nat.add_zero, Nat.add_sub_of_le (Nat.le_of_lt h)] at hadd
    rw [← hadd]
    apply List.map_congr_left
    intro k hk
    have := (mem_span.mp hk).2
    exact Nat.mod_eq_of_lt (by omega)
  have hback : (span (n - start) n).map (fun k => (start + k) % n) = span 0 start := by
    have hadd := span_add (n - start) 0 start
    rw [Nat.add_zero, Nat.sub_add_cancel (Nat.le_of_lt h)] at hadd
    rw [← hadd, List.map_map]
    conv => rhs; rw [← List.map_id (span 0 start)]
    apply List.map_congr_left
    intro k hk
    have := (mem_span.mp hk).2
    have he : start + (n - start + k) = k + n := by omega
    rw [Function.comp_apply, he, Nat.add_mod_right, Nat.mod_eq_of_lt (by omega), id]
  rw [cyclic, ← span_zero, ← span_append (Nat.zero_le (n - start)) (Nat.sub_le n start), List.map_append, hfront, hback]

/-! ## Questions about the elements of a list -/

section Questions

variable {M : Type → Type} [Monad M] {α : Type} {β γ : Type}

theorem findSomeM?_map (f : β → M (Option α)) (g : γ → β) (l : List γ) :
    (l.map g).findSomeM? f = l.findSomeM? fun c => f (g c) := by
  induction l with
  | nil => rfl
  | cons c l ih =>
    rw [List.map_cons, List.findSomeM?_cons, List.findSomeM?_cons, ih]

/-- The second list is asked about when the first has given no answer. -/
theorem findSomeM?_append [LawfulMonad M] (f : β → M (Option α)) (l l' : List β) :
    (l ++ l').findSomeM? f = (do
      match ← l.findSomeM? f with
      | some a => return some a
      | none => l'.findSomeM? f) := by
  induction l with
  | nil => simp
  | cons b l ih =>
    rw [List.cons_append, List.findSomeM?_cons, List.findSomeM?_cons, ih, bind_assoc]
    congr 1
    funext answer
    cases answer with
    | none => rfl
    | some a => simp

end Questions

/-! ## One visit -/

/-- The regions that a visit may ask, in the order in which it asks them. -/
def visited (m : FreeMap) (start step : Nat) : List Nat :=
  (Word.bits (m.summary.get (visitIndex m.shape start step) &&& visitMask m.shape start step)).map
    (visitIndex m.shape start step * bitsPerWord + ·)

theorem visitM_eq {M : Type → Type} [Monad M] {α : Type} (m : FreeMap) (ask : Nat → M (Option α)) (start step : Nat) :
    m.visitM ask start step = (m.visited start step).findSomeM? ask := by
  rw [visitM, Word.findBitM?_eq_findSomeM?, visited, findSomeM?_map]
  rfl

/-- A visit whose mask is a span of its word may ask the marked regions of the span. -/
theorem visited_eq (m : FreeMap) (start step : Nat) {lo hi : Nat} (h1 : lo ≤ hi) (h2 : hi ≤ bitsPerWord)
    (hmask : ∀ b < bitsPerWord, Word.has (visitMask m.shape start step) b = (decide (lo ≤ b) && decide (b < hi))) :
    m.visited start step =
      (span (visitIndex m.shape start step * bitsPerWord + lo)
        (visitIndex m.shape start step * bitsPerWord + hi)).filter m.isMarked := by
  let w := visitIndex m.shape start step
  let word := m.summary.get w &&& visitMask m.shape start step
  have hbit : ∀ b < bitsPerWord, Word.has word b =
      (m.isMarked (w * bitsPerWord + b) && (decide (lo ≤ b) && decide (b < hi))) := by
    intro b hb
    rw [Word.has_and, hmask b hb, isMarked_word m w.isLt hb]
    rfl
  have hout : ∀ b < bitsPerWord, b < lo ∨ hi ≤ b → Word.has word b = false := by
    intro b hb hcases
    have hfalse : (decide (lo ≤ b) && decide (b < hi)) = false := by
      rw [Bool.and_eq_false_iff, decide_eq_false_iff_not, decide_eq_false_iff_not]
      omega
    rw [hbit b hb, hfalse, Bool.and_false]
  have hbelow : (span 0 lo).filter (Word.has word) = [] := by
    refine List.filter_eq_nil_iff.mpr fun b hb => ?_
    have := (mem_span.mp hb).2
    simp [hout b (by omega) (.inl this)]
  have habove : (span hi bitsPerWord).filter (Word.has word) = [] := by
    refine List.filter_eq_nil_iff.mpr fun b hb => ?_
    simp [hout b (mem_span.mp hb).2 (.inr (mem_span.mp hb).1)]
  have hinside : (span lo hi).filter (Word.has word) = (span lo hi).filter (m.isMarked ∘ (w * bitsPerWord + ·)) := by
    refine List.filter_congr fun b hb => ?_
    obtain ⟨hlo, hhi⟩ := mem_span.mp hb
    rw [hbit b (by omega), decide_eq_true hlo, decide_eq_true hhi]
    simp
  have hbits : Word.bits word = (span lo hi).filter (m.isMarked ∘ (w * bitsPerWord + ·)) := by
    have hwidth : List.range 64 = span 0 bitsPerWord := (span_zero 64).symm
    rw [Word.bits, hwidth, ← span_append (Nat.zero_le lo) (by omega), ← span_append h1 h2, List.filter_append,
      List.filter_append, hbelow, habove, hinside, List.append_nil, List.nil_append]
  rw [visited, hbits, ← List.filter_map, span_add]

/-- The first visit may ask the marked regions of its word from the start on. -/
theorem visited_first (m : FreeMap) (start : Nat) :
    m.visited start 0 =
      (span (visitIndex m.shape start 0 * bitsPerWord + start % bitsPerWord)
        (visitIndex m.shape start 0 * bitsPerWord + bitsPerWord)).filter m.isMarked := by
  have hb : start % bitsPerWord < bitsPerWord := Nat.mod_lt _ (by decide)
  refine visited_eq m start 0 (Nat.le_of_lt hb) (Nat.le_refl _) fun b _ => ?_
  rw [visitMask, if_pos rfl, Word.has_fromBit hb]
  rfl

/-- The last visit may ask the marked regions of its word before the start. -/
theorem visited_last (m : FreeMap) (start : Nat) :
    m.visited start m.shape.summaryCount =
      (span (visitIndex m.shape start m.shape.summaryCount * bitsPerWord)
        (visitIndex m.shape start m.shape.summaryCount * bitsPerWord + start % bitsPerWord)).filter m.isMarked := by
  have hb : start % bitsPerWord < bitsPerWord := Nat.mod_lt _ (by decide)
  have hmask : ∀ b < bitsPerWord, Word.has (visitMask m.shape start m.shape.summaryCount) b =
      (decide (0 ≤ b) && decide (b < start % bitsPerWord)) := by
    intro b hb64
    rw [visitMask, if_neg (Nat.pos_iff_ne_zero.mp m.shape.summaryCount_pos), if_pos rfl, Word.has_not,
      Word.has_fromBit hb]
    have h64 : b < 64 := hb64
    by_cases hlt : b < start % bitsPerWord
    · have hle : ¬start % bitsPerWord ≤ b := by omega
      simp [h64, hlt, hle]
    · have hle : start % bitsPerWord ≤ b := by omega
      simp [h64, hlt, hle]
  have hvisited := visited_eq m start m.shape.summaryCount (Nat.zero_le _) (Nat.le_of_lt hb) hmask
  rwa [Nat.add_zero] at hvisited

/-- Every other visit may ask all marked regions of its word. -/
theorem visited_middle (m : FreeMap) (start : Nat) {step : Nat} (h1 : 0 < step) (h2 : step < m.shape.summaryCount) :
    m.visited start step =
      (span (visitIndex m.shape start step * bitsPerWord)
        (visitIndex m.shape start step * bitsPerWord + bitsPerWord)).filter m.isMarked := by
  refine visited_eq m start step (Nat.zero_le _) (Nat.le_refl _) fun b hb => ?_
  have h64 : b < 64 := hb
  rw [visitMask, if_neg (by omega), if_neg (by omega), Word.has_full]
  simp [hb, h64]

/-! ## All visits -/

/-- Visits in a row ask their regions one after the other. -/
theorem searchFromM_eq {M : Type → Type} [Monad M] [LawfulMonad M] {α : Type} (m : FreeMap) (ask : Nat → M (Option α))
    (start n : Nat) : ∀ step,
    m.searchFromM ask start step n = ((List.range' step n).flatMap (m.visited start)).findSomeM? ask := by
  induction n with
  | zero => intro step; rfl
  | succ n ih =>
    intro step
    rw [searchFromM, List.range'_succ, List.flatMap_cons, findSomeM?_append, visitM_eq]
    congr 1
    funext answer
    cases answer with
    | none => exact ih _
    | some a => rfl

/-- The first free word that `n` visits from number `step` on find. -/
def searchFrom (m : FreeMap) (start step n : Nat) : Option (Fin m.shape.wordCount) :=
  ((List.range' step n).flatMap (m.visited start)).findSome? m.firstFreeWord

theorem searchFrom_succ (m : FreeMap) (start step n : Nat) : m.searchFrom start step (n + 1) =
    ((m.visited start step).findSome? m.firstFreeWord).or (m.searchFrom start (step + 1) n) := by
  rw [searchFrom, List.range'_succ, List.flatMap_cons, List.findSome?_append, searchFrom]

theorem search_eq_searchFrom (m : FreeMap) :
    m.search = m.searchFrom m.startRegion 0 (m.shape.summaryCount + 1) := by
  rw [search, searchM, searchFromM_eq, List.findSomeM?_pure, searchFrom]
  rfl

/-- Visits that do not go round may ask all marked regions of as many words. -/
theorem visited_words (m : FreeMap) (start : Nat) (k : Nat) : ∀ {step w : Nat}, 0 < step →
    step + k ≤ m.shape.summaryCount → w + k ≤ m.shape.summaryCount →
    (0 < k → (start / bitsPerWord + step) % m.shape.summaryCount = w) →
    (List.range' step k).flatMap (m.visited start) =
      (span (w * bitsPerWord) ((w + k) * bitsPerWord)).filter m.isMarked := by
  induction k with
  | zero => intro step w _ _ _ _; simp [span]
  | succ k ih =>
    intro step w h1 h2 h3 hw
    have hidx := hw (Nat.succ_pos k)
    have hnext : 0 < k → (start / bitsPerWord + (step + 1)) % m.shape.summaryCount = w + 1 := by
      intro hk
      rw [← Nat.add_assoc, Nat.add_mod, hidx, Nat.mod_eq_of_lt (by omega : 1 < m.shape.summaryCount),
        Nat.mod_eq_of_lt (by omega)]
    have hhere : m.visited start step = (span (w * bitsPerWord) ((w + 1) * bitsPerWord)).filter m.isMarked := by
      rw [visited_middle m start h1 (by omega), Nat.add_mul, Nat.one_mul]
      simp only [visitIndex, hidx]
    have hrest := ih (by omega) (by omega) (by omega) hnext
    rw [Nat.add_right_comm w 1 k] at hrest
    rw [List.range'_succ, List.flatMap_cons, hhere, hrest, ← List.filter_append,
      span_append (Nat.mul_le_mul_right _ (Nat.le_succ w)) (Nat.mul_le_mul_right _ (by omega))]
    congr 2

/-- The search starts at a region. -/
theorem startRegion_lt (m : FreeMap) : m.startRegion < m.shape.regionCount := Nat.mod_lt _ m.shape.regionCount_pos

theorem regionCount_le (s : Shape) : s.regionCount ≤ s.summaryCount * bitsPerWord :=
  Size.le_roundUp (by decide) s.regionCount

/-- All visits of a search together may ask the marked regions of all summary words, in cyclic order from the start. -/
theorem visited_all (m : FreeMap) {start : Nat} (h : start < m.shape.summaryCount * bitsPerWord) :
    (List.range' 0 (m.shape.summaryCount + 1)).flatMap (m.visited start) =
      (cyclic (m.shape.summaryCount * bitsPerWord) start).filter m.isMarked := by
  obtain ⟨q, hq⟩ : ∃ q, start / bitsPerWord = q := ⟨_, rfl⟩
  have hqlt : q < m.shape.summaryCount := hq ▸ Nat.div_lt_of_lt_mul (by rwa [Nat.mul_comm])
  have hmod : q * bitsPerWord + start % bitsPerWord = start := by
    rw [← hq, Nat.mul_comm]
    exact Nat.div_add_mod _ _
  have hlt : start % bitsPerWord < bitsPerWord := Nat.mod_lt _ (by decide)
  have hsucc : q * bitsPerWord + bitsPerWord = (q + 1) * bitsPerWord := by rw [Nat.add_mul, Nat.one_mul]
  have hfirst : m.visited start 0 = (span start ((q + 1) * bitsPerWord)).filter m.isMarked := by
    have hidx : (visitIndex m.shape start 0 : Nat) = q := by
      simp only [visitIndex, hq, Nat.add_zero]
      exact Nat.mod_eq_of_lt hqlt
    rw [visited_first, hidx, hmod, hsucc]
  have hwords : (List.range' 1 (m.shape.summaryCount - 1 - q)).flatMap (m.visited start) =
      (span ((q + 1) * bitsPerWord) (m.shape.summaryCount * bitsPerWord)).filter m.isMarked := by
    have h := visited_words m start (m.shape.summaryCount - 1 - q) (w := q + 1) (Nat.zero_lt_one) (by omega)
      (by omega) (fun hk => by rw [hq]; exact Nat.mod_eq_of_lt (by omega))
    rwa [(by omega : q + 1 + (m.shape.summaryCount - 1 - q) = m.shape.summaryCount)] at h
  have hround : (List.range' (m.shape.summaryCount - q) q).flatMap (m.visited start) =
      (span 0 (q * bitsPerWord)).filter m.isMarked := by
    have h := visited_words m start q (w := 0) (Nat.sub_pos_of_lt hqlt) (by omega) (by omega)
      (fun hk => by rw [hq, Nat.add_sub_of_le (Nat.le_of_lt hqlt), Nat.mod_self])
    rwa [Nat.zero_mul, Nat.zero_add] at h
  have hlast : m.visited start m.shape.summaryCount = (span (q * bitsPerWord) start).filter m.isMarked := by
    have hidx : (visitIndex m.shape start m.shape.summaryCount : Nat) = q := by
      simp only [visitIndex, hq, Nat.add_mod_right]
      exact Nat.mod_eq_of_lt hqlt
    rw [visited_last, hidx, hmod]
  have hup : start ≤ (q + 1) * bitsPerWord := by omega
  have hend : (q + 1) * bitsPerWord ≤ m.shape.summaryCount * bitsPerWord := Nat.mul_le_mul_right _ hqlt
  -- the first visit, those up to the last word, those from word 0 on, and the rest of the first word
  have hparts : List.range' 0 (m.shape.summaryCount + 1) = 0 :: (List.range' 1 (m.shape.summaryCount - 1 - q) ++
      (List.range' (m.shape.summaryCount - q) q ++ [m.shape.summaryCount])) := by
    have hback : List.range' (m.shape.summaryCount - q) q ++ [m.shape.summaryCount] =
        List.range' (1 + (m.shape.summaryCount - 1 - q)) (q + 1) := by
      rw [List.range'_1_concat, (by omega : 1 + (m.shape.summaryCount - 1 - q) = m.shape.summaryCount - q),
        Nat.sub_add_cancel (Nat.le_of_lt hqlt)]
    rw [hback, List.range'_append_1, List.range'_succ,
      (by omega : m.shape.summaryCount - 1 - q + (q + 1) = m.shape.summaryCount)]
  rw [hparts, List.flatMap_cons, List.flatMap_append, List.flatMap_append, List.flatMap_singleton, hfirst, hwords,
    hround, hlast, ← List.filter_append, ← List.filter_append, ← List.filter_append, cyclic_eq h,
    span_append (Nat.zero_le _) (by omega), ← List.append_assoc, span_append hup hend]

/-- The regions that a search asks if none of them has a free block: the marked ones, in cyclic order from its start. -/
def candidates (m : FreeMap) : List Nat := (cyclic m.shape.regionCount m.startRegion).filter m.isMarked

/-- The visits of a search may ask its candidates, each once, if no region behind the last one is marked. -/
theorem visited_eq_candidates (m : FreeMap) (hmarked : ∀ r, m.shape.regionCount ≤ r → m.isMarked r = false) :
    (List.range' 0 (m.shape.summaryCount + 1)).flatMap (m.visited m.startRegion) = m.candidates := by
  have hstart := startRegion_lt m
  have hle := regionCount_le m.shape
  have hbehind : (span m.shape.regionCount (m.shape.summaryCount * bitsPerWord)).filter m.isMarked = [] :=
    List.filter_eq_nil_iff.mpr fun r hr => by simp [hmarked r (mem_span.mp hr).1]
  rw [visited_all m (Nat.lt_of_lt_of_le hstart hle), candidates, cyclic_eq (Nat.lt_of_lt_of_le hstart hle),
    cyclic_eq hstart, ← span_append (Nat.le_of_lt hstart) hle]
  simp only [List.filter_append, hbehind, List.append_nil]

/-- **A search asks the marked regions in cyclic order from its start.** -/
theorem searchM_eq {M : Type → Type} [Monad M] [LawfulMonad M] {α : Type} (m : FreeMap) (ask : Nat → M (Option α))
    (hmarked : ∀ r, m.shape.regionCount ≤ r → m.isMarked r = false) :
    m.searchM ask = m.candidates.findSomeM? ask := by
  rw [searchM, searchFromM_eq, visited_eq_candidates m hmarked]

/-- A search finds the first free word of a candidate. -/
theorem search_eq_candidates (m : FreeMap) (hmarked : ∀ r, m.shape.regionCount ≤ r → m.isMarked r = false) :
    m.search = m.candidates.findSome? m.firstFreeWord := by
  rw [search, searchM_eq m _ hmarked, List.findSomeM?_pure]
  rfl

/-- What a search learns about a region: the word in which it finds a block, if the region is marked. -/
def look (m : FreeMap) (r : Nat) : Option (Fin m.shape.wordCount) := if m.isMarked r then m.firstFreeWord r else none

theorem search_eq (m : FreeMap) (hmarked : ∀ r, m.shape.regionCount ≤ r → m.isMarked r = false) :
    m.search = (cyclic m.shape.regionCount m.startRegion).findSome? m.look := by
  rw [search_eq_candidates m hmarked, candidates]
  induction cyclic m.shape.regionCount m.startRegion with
  | nil => rfl
  | cons r l ih =>
    rw [List.filter_cons, List.findSome?_cons, ← ih, look]
    split <;> rfl

end BlockHeap.FreeMap
