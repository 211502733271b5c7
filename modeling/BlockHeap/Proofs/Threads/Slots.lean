import BlockHeap.Cell
import BlockHeap.Proofs.Arena.Blocks

/-!
# The slots of an arena

The users of a shared arena read and change its *slots*: the cursor, the number of searches, the words of the free map
and those of its summary. Each access is one `Cell` operation on one slot (`Arena.access`); an exchange may also fail
for no reason. In the other direction, the lemmas here say which operations on slots make the changes that allocation
and deallocation are made of: moving the cursor on, counting a search, changing one bit.
-/

namespace BlockHeap

namespace FreeMap

/-- Word number `i`; those behind the last one are empty. -/
def word (m : FreeMap) (i : Nat) : UInt64 := m.words[i]?.getD 0

/-- Summary word number `i`; those behind the last one are empty. -/
def summaryWord (m : FreeMap) (i : Nat) : UInt64 := m.summary[i]?.getD 0

/-- Changes word number `i`, if there is one. -/
def putWord (m : FreeMap) (i : Nat) (v : UInt64) : FreeMap := { m with words := m.words.setIfInBounds i v }

/-- Changes summary word number `i`, if there is one. -/
def putSummary (m : FreeMap) (i : Nat) (v : UInt64) : FreeMap := { m with summary := m.summary.setIfInBounds i v }

variable {m : FreeMap} {i : Nat}

theorem word_eq (hi : i < m.shape.wordCount) : m.word i = m.words[i] := by
  simp [word, hi]

theorem summaryWord_eq (hi : i < m.shape.summaryCount) : m.summaryWord i = m.summary[i] := by
  simp [summaryWord, hi]

theorem putWord_eq (hi : i < m.shape.wordCount) (v : UInt64) : m.putWord i v = m.setWord ⟨i, hi⟩ v := by
  simp only [putWord, setWord, Vector.setIfInBounds, Vector.set]
  congr 2
  simp [Array.setIfInBounds, hi]

theorem putSummary_eq (hi : i < m.shape.summaryCount) (v : UInt64) : m.putSummary i v = m.setSummary ⟨i, hi⟩ v := by
  simp only [putSummary, setSummary, Vector.setIfInBounds, Vector.set]
  congr 2
  simp [Array.setIfInBounds, hi]

theorem putWord_word (m : FreeMap) (i : Nat) : m.putWord i (m.word i) = m := by
  by_cases hi : i < m.shape.wordCount
  · rw [putWord_eq hi, word_eq hi]
    simp [setWord]
  · simp [putWord, Vector.setIfInBounds, Array.setIfInBounds, hi]

theorem putSummary_summaryWord (m : FreeMap) (i : Nat) : m.putSummary i (m.summaryWord i) = m := by
  by_cases hi : i < m.shape.summaryCount
  · rw [putSummary_eq hi, summaryWord_eq hi]
    simp [setSummary]
  · simp [putSummary, Vector.setIfInBounds, Array.setIfInBounds, hi]

end FreeMap

namespace Arena

/-- What the users of an arena share. -/
inductive Slot where
  | bump
  | searches
  | word (i : Nat)
  | summary (i : Nat)

/-- What a slot holds. -/
def read (a : Arena) : Slot → UInt64
  | .bump => .ofNat a.bump
  | .searches => a.free.searches
  | .word i => a.free.word i
  | .summary i => a.free.summaryWord i

/-- Changes what a slot holds. -/
def write (a : Arena) : Slot → UInt64 → Arena
  | .bump, v => { a with bump := v.toNat }
  | .searches, v => { a with free := { a.free with searches := v } }
  | .word i, v => { a with free := a.free.putWord i v }
  | .summary i, v => { a with free := a.free.putSummary i v }

/-- One operation on a slot: the answer, and the arena afterwards. A `spurious` exchange changes nothing. -/
def access (a : Arena) (slot : Slot) (op : Cell.Op) (spurious : Bool) : Cell.Reply × Arena :=
  match op, spurious with
  | .compareExchange _ _, true => (.kept (a.read slot), a)
  | op, _ => ((Cell.step (a.read slot) op).1, a.write slot (Cell.step (a.read slot) op).2)

/-- The cursor is a number of 64 bits. -/
def Narrow (a : Arena) : Prop := a.bump < UInt64.size

theorem Laid.narrow {a : Arena} {g : Geometry} (h : a.Laid g) : a.Narrow := by
  have hle : a.bump ≤ a.usable := by
    rw [h.bump_eq, h.usable_eq]
    exact Nat.mul_le_mul_right _ h.cursor_le
  have hregion : a.usable ≤ regionBytes := h.region_len ▸ h.usable_le
  exact Nat.lt_of_le_of_lt (hle.trans hregion) (by decide)

variable {a : Arena}

theorem write_read (h : a.Narrow) (slot : Slot) : a.write slot (a.read slot) = a := by
  cases slot with
  | bump => simp only [write, read, UInt64.toNat_ofNat_of_lt' h]
  | searches => rfl
  | word i => simp only [write, read, FreeMap.putWord_word]
  | summary i => simp only [write, read, FreeMap.putSummary_summaryWord]

/-- Reading a slot changes nothing. -/
theorem access_load (h : a.Narrow) (slot : Slot) (spurious : Bool) :
    a.access slot .load spurious = (.old (a.read slot), a) := by
  simp only [access, Cell.step, write_read h]

/-- An exchange changes a slot that holds what is expected, unless it is spurious. -/
theorem access_exchange (h : a.Narrow) (slot : Slot) (expected new : UInt64) (spurious : Bool) :
    a.access slot (.compareExchange expected new) spurious =
      if spurious = false ∧ a.read slot = expected then (.exchanged (a.read slot), a.write slot new)
      else (.kept (a.read slot), a) := by
  cases spurious with
  | true => rfl
  | false =>
    by_cases heq : a.read slot = expected
    · simp only [access, Cell.step, heq, if_true, and_self]
    · simp only [access, Cell.step, heq, if_false, and_false, write_read h]

end Arena

end BlockHeap
