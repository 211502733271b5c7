import BlockHeap.Proofs.Size
import BlockHeap.SizeClass

/-!
# Size classes

A request that is not too large is served by a class that is a power of two between `least` and `greatest` and has room
for it (`exists_pow_of_fitting`); its number is the exponent, counted from that of the smallest class
(`index_fitting`).

The classes are the `Pooled` sizes. Rounding is the least upper bound in them (`fitting_le_iff`), so that it is monotone
and leaves the classes alone (`fitting_eq_self_iff`). A class and its number determine each other (`index_eq_ok_iff`,
`ofIndex_eq_ok_iff`), in the same order.
-/

namespace BlockHeap.SizeClass

theorem fitting_of_greatest_lt {bytes : Nat} (h : greatest < bytes) : fitting bytes = unclassed := by
  have hle : ¬bytes ≤ least := by
    unfold least greatest at *
    omega
  rw [fitting, if_neg hle, if_pos h]

/-- What has no class is too large. -/
theorem fitting_eq_unclassed_iff {bytes : Nat} : fitting bytes = unclassed ↔ greatest < bytes := by
  refine ⟨fun h => ?_, fitting_of_greatest_lt⟩
  unfold fitting at h
  split at h
  · cases h
  · split at h
    · assumption
    · rw [Nat.one_shiftLeft] at h
      exact absurd h (Nat.ne_of_gt (Nat.two_pow_pos _))

/-- **A class has room** for the requests that it serves. -/
theorem exists_pow_of_fitting {bytes : Nat} (h : fitting bytes ≠ unclassed) :
    ∃ e, 3 ≤ e ∧ e ≤ 22 ∧ fitting bytes = 2 ^ e ∧ bytes ≤ 2 ^ e := by
  by_cases hsmall : bytes ≤ least
  · exact ⟨3, by omega, by omega, if_pos hsmall, hsmall⟩
  by_cases hlarge : greatest < bytes
  · exact absurd (fitting_of_greatest_lt hlarge) h
  have hleast : least = 8 := rfl
  have hgreatest : greatest = 2 ^ 22 := rfl
  have hne : bytes - 1 ≠ 0 := by omega
  have hlow : 3 ≤ (bytes - 1).log2 := (Nat.le_log2 hne).mpr (by omega)
  have hhigh : (bytes - 1).log2 < 22 := (Nat.log2_lt hne).mpr (by omega)
  have hroom : bytes - 1 < 2 ^ ((bytes - 1).log2 + 1) := Nat.lt_log2_self
  refine ⟨(bytes - 1).log2 + 1, by omega, by omega, ?_, by omega⟩
  rw [fitting, if_neg hsmall, if_neg hlarge, Nat.one_shiftLeft]

theorem index_pow {e : Nat} (h3 : 3 ≤ e) (h22 : e ≤ 22) : index (2 ^ e) = .ok (e - 3) := by
  have hlow : 2 ^ 3 ≤ 2 ^ e := Nat.pow_le_pow_right (by decide) h3
  have hhigh : 2 ^ e ≤ 2 ^ 22 := Nat.pow_le_pow_right (by decide) h22
  have hleast : least = 2 ^ 3 := rfl
  have hgreatest : greatest = 2 ^ 22 := rfl
  have hrange : ¬(2 ^ e < least ∨ greatest < 2 ^ e) := by omega
  have hlog : least.log2 = 3 := by decide
  rw [index, Size.isPowerOfTwo_pow, if_neg hrange, Nat.log2_two_pow, hlog]
  rfl

/-- **The number of the class** of a request. -/
theorem index_fitting {bytes : Nat} (h : fitting bytes ≠ unclassed) :
    ∃ i, i < count ∧ index (fitting bytes) = .ok i ∧ fitting bytes = least * 2 ^ i ∧ bytes ≤ fitting bytes := by
  obtain ⟨e, h3, h22, heq, hle⟩ := exists_pow_of_fitting h
  have hcount : count = 20 := by decide
  refine ⟨e - 3, by omega, ?_, ?_, by omega⟩
  · rw [heq]
    exact index_pow h3 h22
  · rw [heq, show least = 2 ^ 3 from rfl, ← Nat.pow_add]
    congr 1
    omega

/-! ## The least class that fits -/

/-- The block sizes of which there are pools: the powers of two from `least` to `greatest`. -/
def Pooled (size : Nat) : Prop := Size.isPowerOfTwo size = true ∧ least ≤ size ∧ size ≤ greatest

instance (size : Nat) : Decidable (Pooled size) := inferInstanceAs (Decidable (_ ∧ _))

theorem pooled_iff {size : Nat} : Pooled size ↔ ∃ e, 3 ≤ e ∧ e ≤ 22 ∧ size = 2 ^ e := by
  have hleast : least = 2 ^ 3 := rfl
  have hgreatest : greatest = 2 ^ 22 := rfl
  constructor
  · rintro ⟨hpow, hlow, hhigh⟩
    obtain ⟨e, rfl⟩ := Size.exists_pow_of_isPowerOfTwo hpow
    rw [hleast] at hlow
    rw [hgreatest] at hhigh
    exact ⟨e, (Nat.pow_le_pow_iff_right (by decide)).mp hlow, (Nat.pow_le_pow_iff_right (by decide)).mp hhigh, rfl⟩
  · rintro ⟨e, h3, h22, rfl⟩
    refine ⟨Size.isPowerOfTwo_pow e, ?_, ?_⟩
    · rw [hleast]
      exact Nat.pow_le_pow_right (by decide) h3
    · rw [hgreatest]
      exact Nat.pow_le_pow_right (by decide) h22

variable {bytes size i : Nat}

theorem not_pooled_unclassed : ¬Pooled unclassed := by decide

theorem fitting_ne_unclassed (h : bytes ≤ greatest) : fitting bytes ≠ unclassed :=
  fun heq => Nat.not_lt.mpr h (fitting_eq_unclassed_iff.mp heq)

theorem pooled_fitting (h : bytes ≤ greatest) : Pooled (fitting bytes) := by
  obtain ⟨e, h3, h22, heq, -⟩ := exists_pow_of_fitting (fitting_ne_unclassed h)
  exact pooled_iff.mpr ⟨e, h3, h22, heq⟩

theorem le_fitting (h : bytes ≤ greatest) : bytes ≤ fitting bytes := by
  obtain ⟨e, -, -, heq, hle⟩ := exists_pow_of_fitting (fitting_ne_unclassed h)
  rwa [heq]

/-- The exponent of the class is the width of `bytes - 1`, in a 64-bit word what its leading zeros leave. -/
theorem fitting_eq_shift_clz (hlow : least < bytes) (hhigh : bytes ≤ greatest) :
    fitting bytes = 1 <<< (64 - (BitVec.ofNat 64 (bytes - 1)).clz.toNat) := by
  have hleast : least = 8 := rfl
  have hgreatest : greatest = 2 ^ 22 := rfl
  have hval : (BitVec.ofNat 64 (bytes - 1)).toNat = bytes - 1 := by
    rw [BitVec.toNat_ofNat, Nat.mod_eq_of_lt (by omega)]
  have hne : BitVec.ofNat 64 (bytes - 1) ≠ 0#64 := by
    intro h0
    rw [h0, BitVec.toNat_zero] at hval
    omega
  have hclz : (BitVec.ofNat 64 (bytes - 1)).clz.toNat < 64 := BitVec.lt_def.mp (BitVec.clz_lt_iff_ne_zero.mpr hne)
  have hfrom := BitVec.two_pow_sub_clz_le_toNat_of_ne_zero (x := BitVec.ofNat 64 (bytes - 1)) (by decide) hne
  have hto := BitVec.toNat_lt_two_pow_sub_clz (x := BitVec.ofNat 64 (bytes - 1))
  rw [hval] at hfrom hto
  have hlog : (bytes - 1).log2 + 1 = 64 - (BitVec.ofNat 64 (bytes - 1)).clz.toNat := by
    have hge := (Nat.le_log2 (by omega)).mpr hfrom
    have hlt := (Nat.log2_lt (by omega)).mpr hto
    omega
  rw [fitting, if_neg (by omega), if_neg (by omega), hlog]

/-- No smaller class has room. -/
theorem fitting_le (hsize : Pooled size) (h : bytes ≤ size) : fitting bytes ≤ size := by
  by_cases hsmall : bytes ≤ least
  · rw [fitting, if_pos hsmall]
    exact hsize.2.1
  have hlarge : ¬greatest < bytes := Nat.not_lt.mpr (Nat.le_trans h hsize.2.2)
  obtain ⟨e, -, -, rfl⟩ := pooled_iff.mp hsize
  have hne : bytes - 1 ≠ 0 := by
    unfold least at hsmall
    omega
  have hlog : (bytes - 1).log2 < e := (Nat.log2_lt hne).mpr (by omega)
  rw [fitting, if_neg hsmall, if_neg hlarge, Nat.one_shiftLeft]
  exact Nat.pow_le_pow_right (by decide) hlog

/-- **The class of a request is the least one that fits.** -/
theorem fitting_le_iff (hsize : Pooled size) (h : bytes ≤ greatest) : fitting bytes ≤ size ↔ bytes ≤ size :=
  ⟨Nat.le_trans (le_fitting h), fitting_le hsize⟩

theorem fitting_mono {bytes' : Nat} (h : bytes ≤ bytes') (h' : bytes' ≤ greatest) : fitting bytes ≤ fitting bytes' :=
  fitting_le (pooled_fitting h') (Nat.le_trans h (le_fitting h'))

theorem fitting_of_pooled (h : Pooled size) : fitting size = size :=
  Nat.le_antisymm (fitting_le h (Nat.le_refl size)) (le_fitting h.2.2)

theorem fitting_eq_self_iff : fitting size = size ∧ size ≠ unclassed ↔ Pooled size := by
  constructor
  · rintro ⟨hself, hne⟩
    rw [← hself] at hne ⊢
    exact pooled_fitting (Nat.not_lt.mp fun h => hne (fitting_of_greatest_lt h))
  · exact fun h => ⟨fitting_of_pooled h, fun h0 => not_pooled_unclassed (h0 ▸ h)⟩

/-! ## The numbers of the classes -/

theorem ofIndex_eq_ok_iff : ofIndex i = .ok size ↔ i < count ∧ size = least * 2 ^ i := by
  rw [ofIndex]
  split
  · rename_i hi
    rw [Nat.shiftLeft_eq, Except.ok.injEq, eq_comm, and_iff_right hi]
  · rename_i hi
    exact ⟨(fun h => by cases h), fun h => absurd h.1 hi⟩

theorem pooled_of_index (h : index size = .ok i) : Pooled size := by
  unfold index at h
  split at h
  · cases h
  · rename_i hpow
    split at h
    · cases h
    · rename_i hrange
      exact ⟨by simpa using hpow, by omega, by omega⟩

theorem index_eq_ok_iff : index size = .ok i ↔ i < count ∧ size = least * 2 ^ i := by
  have hcount : count = 20 := by decide
  have hpow (e : Nat) (h3 : 3 ≤ e) : 2 ^ e = least * 2 ^ (e - 3) := by
    rw [show least = 2 ^ 3 from rfl, ← Nat.pow_add, Nat.add_sub_cancel' h3]
  constructor
  · intro h
    obtain ⟨e, h3, h22, rfl⟩ := pooled_iff.mp (pooled_of_index h)
    rw [index_pow h3 h22, Except.ok.injEq] at h
    exact ⟨by omega, by rw [← h, ← hpow e h3]⟩
  · rintro ⟨hi, rfl⟩
    have := hpow (i + 3) (by omega)
    rw [Nat.add_sub_cancel] at this
    rw [← this, index_pow (by omega) (by omega), Nat.add_sub_cancel]

/-- **The number of a class and the class of a number** are inverse to each other. -/
theorem index_iff_ofIndex : index size = .ok i ↔ ofIndex i = .ok size :=
  index_eq_ok_iff.trans ofIndex_eq_ok_iff.symm

theorem exists_index (h : Pooled size) : ∃ i, index size = .ok i := by
  obtain ⟨e, h3, h22, rfl⟩ := pooled_iff.mp h
  exact ⟨e - 3, index_pow h3 h22⟩

/-- The numbers are in order of size. -/
theorem index_lt_iff {size' i' : Nat} (h : index size = .ok i) (h' : index size' = .ok i') : i < i' ↔ size < size' := by
  rw [(index_eq_ok_iff.mp h).2, (index_eq_ok_iff.mp h').2, Nat.mul_lt_mul_left (by decide),
    Nat.pow_lt_pow_iff_right (by decide)]

end BlockHeap.SizeClass
