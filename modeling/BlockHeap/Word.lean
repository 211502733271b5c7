/-!
# Words as sets of bits

A 64-bit word stands for the set of its one bits. `bit i` has one member, `lowest` is the least member of a word that
is not empty, and `findBitM? f w` asks `f` about the members in rising order until it answers.
-/

namespace BlockHeap.Word

/-- The number of bits of a word. -/
def width : Nat := 64

/-- The word with all bits. -/
def full : UInt64 := ~~~0

/-- The word with bit `i` alone. -/
def bit (i : Nat) : UInt64 := 1 <<< UInt64.ofNat i

/-- The bits of a word from `i` on. -/
def fromBit (i : Nat) : UInt64 := full <<< UInt64.ofNat i

/-- The number of the lowest one bit of a word that has any. -/
def lowest (w : UInt64) : Nat := (w &&& (0 - w)).log2.toNat

/-- A word without its lowest one bit. -/
def dropLowest (w : UInt64) : UInt64 := w &&& (w - 1)

/-- A word that is not empty loses something with its lowest bit. -/
theorem dropLowest_lt {w : UInt64} (h : w ≠ 0) : (dropLowest w).toNat < w.toNat := by
  have hpos : 0 < w.toNat := by
    rcases Nat.eq_zero_or_pos w.toNat with h0 | h0
    · exact absurd (UInt64.toNat_inj.mp h0) h
    · exact h0
  have hle : (1 : UInt64) ≤ w := UInt64.le_iff_toNat_le.mpr hpos
  have hand : (dropLowest w).toNat ≤ (w - 1).toNat := by
    rw [dropLowest, UInt64.toNat_and]
    exact Nat.and_le_right
  have hsub : (w - 1).toNat = w.toNat - 1 := UInt64.toNat_sub_of_le w 1 hle
  omega

/-- The first answer that `f` gives about the one bits of a word, in rising order. A question may have effects. -/
@[specialize]
def findBitM? {M : Type → Type} [Monad M] {α : Type} (f : Nat → M (Option α)) (w : UInt64) : M (Option α) :=
  if _ : w = 0 then pure none
  else do
    match ← f (lowest w) with
    | some a => return some a
    | none => findBitM? f (dropLowest w)
  termination_by w.toNat
  decreasing_by exact dropLowest_lt ‹_›

end BlockHeap.Word
