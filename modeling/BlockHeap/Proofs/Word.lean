import BlockHeap.Word
import Mathlib.Algebra.Group.Nat.Defs

/-!
# What the operations on words do to bits

A word is the set of the numbers `i` with `has w i`. The operations of `BlockHeap.Word` are set operations: `bit i` is
a singleton (`has_bit`), `lowest` is the least member (`has_lowest`, `lowest_le`), `dropLowest` removes it
(`has_dropLowest`), and `findBitM?` asks about the members in rising order (`findBitM?_eq_findSomeM?`), which `bits`
lists.
-/

namespace BlockHeap.Word

/-- Whether bit `i` of a word is one. -/
def has (w : UInt64) (i : Nat) : Bool := w.toNat.testBit i

theorem lt_of_has {w : UInt64} {i : Nat} (h : has w i = true) : i < 64 := by
  refine Nat.lt_of_not_le fun hi => ?_
  have hw : w.toNat < 2 ^ i := Nat.lt_of_lt_of_le w.toNat_lt (Nat.pow_le_pow_right (by decide) hi)
  have h0 := Nat.testBit_lt_two_pow hw
  rw [has, h0] at h
  cases h

/-- Words with the same bits are equal. -/
theorem ext {v w : UInt64} (h : ∀ i, has v i = has w i) : v = w :=
  UInt64.toNat_inj.mp (Nat.eq_of_testBit_eq h)

/-- There are 64 bits to compare. -/
theorem ext_of_lt {v w : UInt64} (h : ∀ i < 64, has v i = has w i) : v = w := by
  refine ext fun i => ?_
  rcases Nat.lt_or_ge i 64 with hi | hi
  · exact h i hi
  · have hout : ∀ u, has u i = false := fun u => by
      rw [← Bool.not_eq_true]
      exact fun hu => Nat.not_lt_of_le hi (lt_of_has hu)
    rw [hout, hout]

/-! ## Set operations -/

@[simp] theorem has_zero (i : Nat) : has 0 i = false := by
  simp [has]

@[simp] theorem has_or (v w : UInt64) (i : Nat) : has (v ||| w) i = (has v i || has w i) := by
  simp [has, Nat.testBit_or]

@[simp] theorem has_and (v w : UInt64) (i : Nat) : has (v &&& w) i = (has v i && has w i) := by
  simp [has, Nat.testBit_and]

theorem has_not (w : UInt64) (i : Nat) : has (~~~w) i = (decide (i < 64) && !has w i) := by
  have hs : UInt64.size - 1 - w.toNat = 2 ^ 64 - (w.toNat + 1) := by
    change 2 ^ 64 - 1 - w.toNat = _
    omega
  rw [has, UInt64.toNat_not, hs, Nat.testBit_two_pow_sub_succ w.toNat_lt]
  rfl

theorem has_full (i : Nat) : has full i = decide (i < 64) := by
  rw [full, has_not, has_zero, Bool.not_false, Bool.and_true]

theorem toNat_bit {i : Nat} (hi : i < 64) : (bit i).toNat = 2 ^ i := by
  have h2 : 2 ^ i < 2 ^ 64 := Nat.pow_lt_pow_right (by decide) hi
  rw [bit, UInt64.toNat_shiftLeft, UInt64.toNat_ofNat', Nat.mod_eq_of_lt (by omega : i < 2 ^ 64), Nat.mod_eq_of_lt hi,
    UInt64.toNat_one, Nat.one_shiftLeft, Nat.mod_eq_of_lt h2]

theorem has_bit {i : Nat} (hi : i < 64) (j : Nat) : has (bit i) j = decide (i = j) := by
  rw [has, toNat_bit hi, Nat.testBit_two_pow]

theorem has_fromBit {i : Nat} (hi : i < 64) (j : Nat) : has (fromBit i) j = (decide (i ≤ j) && decide (j < 64)) := by
  have hf : ∀ n, Nat.testBit full.toNat n = decide (n < 64) := has_full
  rw [has, fromBit, UInt64.toNat_shiftLeft, UInt64.toNat_ofNat', Nat.mod_eq_of_lt (by omega : i < 2 ^ 64),
    Nat.mod_eq_of_lt hi, Nat.testBit_mod_two_pow, Nat.testBit_shiftLeft, hf]
  by_cases h1 : i ≤ j
  · by_cases h2 : j < 64
    · have h3 : j - i < 64 := by omega
      simp [h1, h2, h3]
    · simp [h2]
  · simp [h1]

/-- A word that is not empty has a least member. -/
theorem exists_least {w : UInt64} (h : w ≠ 0) : ∃ k, has w k = true ∧ ∀ j < k, has w j = false := by
  have hne : w.toNat ≠ 0 := fun h0 => h (UInt64.toNat_inj.mp h0)
  have hex : ∃ i, has w i = true := Nat.exists_testBit_of_ne_zero hne
  obtain ⟨i, hi⟩ := hex
  induction i using Nat.strongRecOn with
  | ind i ih =>
    by_cases hlow : ∃ j, j < i ∧ has w j = true
    · obtain ⟨j, hj, hw⟩ := hlow
      exact ih j hj hw
    · refine ⟨i, hi, fun j hj => ?_⟩
      cases hw : has w j with
      | false => rfl
      | true => exact absurd ⟨j, hj, hw⟩ hlow

/-- A word is empty when it has no bit. -/
theorem eq_zero_iff {w : UInt64} : w = 0 ↔ ∀ i, has w i = false := by
  refine ⟨fun h i => by rw [h, has_zero], fun h => ext fun i => ?_⟩
  rw [h i, has_zero]

/-! ## The lowest bit -/

/-- Subtracting one clears the lowest one bit and sets the bits below it. -/
theorem testBit_pred {n k : Nat} (hk : n.testBit k = true) (hlow : ∀ j < k, n.testBit j = false) (j : Nat) :
    (n - 1).testBit j = (decide (j < k) || (decide (k < j) && n.testBit j)) := by
  have hmod : n % 2 ^ (k + 1) = 2 ^ k := by
    apply Nat.eq_of_testBit_eq
    intro i
    rw [Nat.testBit_mod_two_pow, Nat.testBit_two_pow]
    rcases Nat.lt_trichotomy i k with h | h | h
    · have hne : k ≠ i := by omega
      simp [hlow i h, hne]
    · subst h
      simp [hk]
    · have hne : k ≠ i := by omega
      have hge : ¬i < k + 1 := by omega
      simp [hne, hge]
  have hpos : 0 < 2 ^ k := Nat.two_pow_pos k
  have hdiv := Nat.div_add_mod n (2 ^ (k + 1))
  rw [hmod] at hdiv
  -- the bits above the lowest one stay, so only its own power of two loses one
  have hpred : n - 1 = 2 ^ (k + 1) * (n / 2 ^ (k + 1)) + (2 ^ k - 1) := by omega
  have hlt : 2 ^ k - 1 < 2 ^ (k + 1) := by rw [Nat.pow_succ]; omega
  have hlt' : 2 ^ k < 2 ^ (k + 1) := by rw [Nat.pow_succ]; omega
  have hn : n.testBit j = if j < k + 1 then (2 ^ k).testBit j else (n / 2 ^ (k + 1)).testBit (j - (k + 1)) := by
    rw [← Nat.testBit_two_pow_mul_add _ hlt', hdiv]
  rw [hpred, Nat.testBit_two_pow_mul_add _ hlt, hn, Nat.testBit_two_pow_sub_one, Nat.testBit_two_pow]
  rcases Nat.lt_trichotomy j k with h | h | h
  · have h1 : j < k + 1 := by omega
    simp [h, h1]
  · subst h
    simp
  · have h1 : ¬j < k + 1 := by omega
    have h2 : ¬j < k := by omega
    simp [h, h1, h2]

/-- The lowest bit is the least member. -/
theorem lowest_eq {w : UInt64} {k : Nat} (hk : has w k = true) (hlow : ∀ j < k, has w j = false) : lowest w = k := by
  have hne : w ≠ 0 := fun h => by rw [h, has_zero] at hk; cases hk
  have hpos : 0 < w.toNat := Nat.pos_of_ne_zero fun h0 => hne (UInt64.toNat_inj.mp h0)
  have hneg : (0 - w).toNat = 2 ^ 64 - ((w.toNat - 1) + 1) := by
    rw [UInt64.zero_sub, UInt64.toNat_neg]
    have hlt := w.toNat_lt
    have hs : UInt64.size = 2 ^ 64 := rfl
    rw [hs, Nat.mod_eq_of_lt (by omega)]
    omega
  have hand : (w &&& (0 - w)).toNat = 2 ^ k := by
    apply Nat.eq_of_testBit_eq
    intro j
    rw [UInt64.toNat_and, Nat.testBit_and, hneg, Nat.testBit_two_pow_sub_succ (by have := w.toNat_lt; omega),
      testBit_pred hk hlow, Nat.testBit_two_pow]
    rcases Nat.lt_trichotomy j k with h | h | h
    · have h0 : w.toNat.testBit j = false := hlow j h
      have h1 : k ≠ j := by omega
      simp [h0, h1]
    · subst h
      have h0 : w.toNat.testBit j = true := hk
      simp [h0, lt_of_has hk]
    · have h1 : k ≠ j := by omega
      have h2 : ¬j < k := by omega
      cases hw : w.toNat.testBit j <;> simp [h, h1, h2]
  have hlog : (lowest w) = Nat.log2 (w &&& (0 - w)).toNat := rfl
  rw [hlog, hand, Nat.log2_two_pow]

theorem has_lowest {w : UInt64} (h : w ≠ 0) : has w (lowest w) = true := by
  obtain ⟨k, hk, hlow⟩ := exists_least h
  rwa [lowest_eq hk hlow]

theorem lowest_le {w : UInt64} {i : Nat} (h : has w i = true) : lowest w ≤ i := by
  have hne : w ≠ 0 := fun h0 => by rw [h0, has_zero] at h; cases h
  obtain ⟨k, hk, hlow⟩ := exists_least hne
  rw [lowest_eq hk hlow]
  refine Nat.le_of_not_lt fun hlt => ?_
  rw [hlow i hlt] at h
  cases h

theorem lowest_lt {w : UInt64} (h : w ≠ 0) : lowest w < 64 := lt_of_has (has_lowest h)

/-- Dropping the lowest bit leaves the others. -/
theorem has_dropLowest {w : UInt64} (h : w ≠ 0) (i : Nat) :
    has (dropLowest w) i = (has w i && decide (i ≠ lowest w)) := by
  obtain ⟨k, hk, hlow⟩ := exists_least h
  have hpos : 0 < w.toNat := Nat.pos_of_ne_zero fun h0 => h (UInt64.toNat_inj.mp h0)
  have hone : (1 : UInt64) ≤ w := UInt64.le_iff_toNat_le.mpr hpos
  have hsub : (w - 1).toNat = w.toNat - 1 := UInt64.toNat_sub_of_le w 1 hone
  rw [lowest_eq hk hlow, dropLowest, has_and]
  have hp : has (w - 1) i = (w.toNat - 1).testBit i := by rw [has, hsub]
  rw [hp, testBit_pred hk hlow]
  rcases Nat.lt_trichotomy i k with h1 | h1 | h1
  · simp [hlow i h1]
  · subst h1
    simp
  · have h2 : i ≠ k := by omega
    have h3 : w.toNat.testBit i = has w i := rfl
    cases hw : has w i <;> simp [h1, h2, h3, hw]

/-! ## Searching -/

/-- The one bits of a word, in rising order. -/
def bits (w : UInt64) : List Nat := (List.range 64).filter (has w)

theorem lt_of_mem_bits {w : UInt64} {i : Nat} (h : i ∈ bits w) : i < 64 :=
  List.mem_range.mp (List.mem_filter.mp h).1

theorem bits_zero : bits 0 = [] := List.filter_eq_nil_iff.mpr fun i _ => by simp

/-- The lowest bit comes first, and then the others. -/
theorem bits_of_ne_zero {w : UInt64} (h : w ≠ 0) : bits w = lowest w :: bits (dropLowest w) := by
  have hsplit : List.range 64 = List.range (lowest w) ++ lowest w :: List.range' (lowest w + 1) (63 - lowest w) := by
    have hlt := lowest_lt h
    have happend := List.range'_append_1 (s := 0) (m := lowest w) (n := 63 - lowest w + 1)
    rw [Nat.zero_add, List.range'_succ] at happend
    rw [List.range_eq_range', List.range_eq_range', happend]
    congr 1
    omega
  have hbelow (i : Nat) (hi : i ∈ List.range (lowest w)) : has w i = false := by
    rw [← Bool.not_eq_true]
    exact fun hw => Nat.not_lt.mpr (lowest_le hw) (List.mem_range.mp hi)
  have hfront : (List.range (lowest w)).filter (has w) = (List.range (lowest w)).filter (has (dropLowest w)) := by
    refine List.filter_congr fun i hi => ?_
    rw [has_dropLowest h, hbelow i hi, Bool.false_and]
  have hback : (List.range' (lowest w + 1) (63 - lowest w)).filter (has w) =
      (List.range' (lowest w + 1) (63 - lowest w)).filter (has (dropLowest w)) := by
    refine List.filter_congr fun i hi => ?_
    have hne : i ≠ lowest w := by
      have := (List.mem_range'_1.mp hi).1
      omega
    simp [has_dropLowest h, hne]
  have hnone : (List.range (lowest w)).filter (has w) = [] :=
    List.filter_eq_nil_iff.mpr fun i hi => by simp [hbelow i hi]
  have hself : has (dropLowest w) (lowest w) = false := by simp [has_dropLowest h]
  rw [bits, bits, hsplit, List.filter_append, List.filter_append, List.filter_cons_of_pos (has_lowest h),
    List.filter_cons_of_neg (by simp [hself]), ← hfront, hnone, hback]
  rfl

/-- `findBitM?` asks about the members of a word in rising order. -/
theorem findBitM?_eq_findSomeM? {M : Type → Type} [Monad M] {α : Type} (f : Nat → M (Option α)) (w : UInt64) :
    findBitM? f w = (bits w).findSomeM? f := by
  induction hn : w.toNat using Nat.strongRecOn generalizing w with
  | ind n ih =>
    by_cases h : w = 0
    · rw [h, bits_zero, findBitM?, dif_pos rfl, List.findSomeM?_nil]
    · rw [findBitM?, dif_neg h, ih _ (hn ▸ dropLowest_lt h) _ rfl, bits_of_ne_zero h, List.findSomeM?_cons]
      rfl

end BlockHeap.Word
