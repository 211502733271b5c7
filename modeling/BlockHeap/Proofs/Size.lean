import BlockHeap.Size
import Mathlib.Algebra.Group.Nat.Defs
import Mathlib.Data.Nat.Basic
import Mathlib.Order.Basic

/-!
# Covering by units

The number of units that cover `n` is the least with room for `n` (`Size.ceilDiv_le_iff`), and so the least above the
quotients of all numbers below `n` (`Size.ceilDiv_le_iff_div_lt`). Units can be covered in groups
(`Size.ceilDiv_ceilDiv`), and powers of two by powers of two (`Size.ceilDiv_pow`).
-/

namespace BlockHeap.Size

variable {m n unit c : Nat}

/-- **How many units are needed.** -/
theorem ceilDiv_le_iff (hu : 0 < unit) : ceilDiv n unit ≤ c ↔ n ≤ c * unit := by
  constructor
  · intro h
    calc
      n ≤ roundUp n unit := le_roundUp hu n
      _ ≤ c * unit := Nat.mul_le_mul_right unit h
  · intro h
    unfold ceilDiv
    split
    · exact Nat.div_le_of_le_mul (by rwa [Nat.mul_comm])
    · rename_i hmod
      -- the last unit is not full, so that there is room for more
      have hne : n ≠ c * unit := by
        rintro rfl
        exact hmod (Nat.mul_mod_left c unit)
      exact (Nat.div_lt_iff_lt_mul hu).mpr (Nat.lt_of_le_of_ne h hne)

/-- Covering more takes no fewer units. -/
theorem ceilDiv_mono (h : m ≤ n) : ceilDiv m unit ≤ ceilDiv n unit := by
  rcases Nat.eq_zero_or_pos unit with rfl | hu
  · simp only [ceilDiv, Nat.div_zero, Nat.mod_zero]
    split
    · exact Nat.zero_le _
    · have hn : n ≠ 0 := by omega
      simp [hn]
  · exact (ceilDiv_le_iff hu).mpr (Nat.le_trans h (le_roundUp hu n))

/-- Covering takes no more units than one for each. -/
theorem ceilDiv_le_self (hu : 0 < unit) (n : Nat) : ceilDiv n unit ≤ n :=
  (ceilDiv_le_iff hu).mpr (Nat.le_mul_of_pos_right n hu)

/-- **Covering takes as many units as there are quotients.** -/
theorem ceilDiv_le_iff_div_lt (hu : 0 < unit) : ceilDiv n unit ≤ c ↔ ∀ i < n, i / unit < c := by
  rw [ceilDiv_le_iff hu]
  constructor
  · intro h i hi
    exact (Nat.div_lt_iff_lt_mul hu).mpr (Nat.lt_of_lt_of_le hi h)
  · intro h
    -- otherwise `c * unit` is one of the numbers, and its quotient is `c`
    by_contra hlt
    have hquotient := h (c * unit) (Nat.lt_of_not_le hlt)
    rw [Nat.mul_div_cancel c hu] at hquotient
    exact Nat.lt_irrefl c hquotient

/-- The unit of a number is one of those that cover. -/
theorem div_lt_ceilDiv (hu : 0 < unit) (h : m < n) : m / unit < ceilDiv n unit :=
  (ceilDiv_le_iff_div_lt hu).mp (Nat.le_refl _) m h

/-- Covering units by groups of units. -/
theorem ceilDiv_ceilDiv (hu : 0 < unit) {group : Nat} (hg : 0 < group) :
    ceilDiv (ceilDiv n unit) group = ceilDiv n (unit * group) := by
  refine eq_of_forall_ge_iff fun c => ?_
  rw [ceilDiv_le_iff hg, ceilDiv_le_iff hu, ceilDiv_le_iff (Nat.mul_pos hu hg), Nat.mul_assoc, Nat.mul_comm group]

/-! ## Powers of two -/

/-- The powers of two, as such. -/
theorem exists_pow_of_isPowerOfTwo (h : isPowerOfTwo n = true) : ∃ e, n = 2 ^ e := by
  unfold isPowerOfTwo at h
  rw [Bool.and_eq_true, beq_iff_eq] at h
  rw [Nat.one_shiftLeft] at h
  exact ⟨n.log2, h.2.symm⟩

theorem isPowerOfTwo_pow (e : Nat) : isPowerOfTwo (2 ^ e) = true := by
  simp [isPowerOfTwo, Nat.log2_two_pow, Nat.one_shiftLeft]

/-- Cutting a power of two into units of a power of two. -/
theorem ceilDiv_pow (a b : Nat) : ceilDiv (2 ^ a) (2 ^ b) = 2 ^ (a - b) := by
  unfold ceilDiv
  rcases Nat.lt_or_ge a b with h | h
  · have hpow : 2 ^ a < 2 ^ b := Nat.pow_lt_pow_right (by decide) h
    rw [Nat.div_eq_of_lt hpow, Nat.mod_eq_of_lt hpow, if_neg (Nat.ne_of_gt (Nat.two_pow_pos a)),
      Nat.sub_eq_zero_of_le (Nat.le_of_lt h), Nat.pow_zero]
  · rw [Nat.mod_eq_zero_of_dvd (Nat.pow_dvd_pow 2 h), if_pos rfl, Nat.add_zero, Nat.pow_div h (by decide)]

end BlockHeap.Size
