import BlockHeap.Heap.Memory

/-!
# Objects stay where they are

What was written is what is read (`holds_write`), until something else is written over it or its memory is erased:
writing and erasing elsewhere change nothing (`Holds.write`, `Holds.erase`).
-/

namespace BlockHeap.Memory

/-- The object is what is read at its start. -/
def Holds (m : Memory) (p : Placed) : Prop := m.objects.find? (·.start == p.start) = some p

theorem Holds.read? {m : Memory} {p : Placed} (h : m.Holds p) : m.read? p.start = some p.object := by
  rw [Memory.read?, show m.objects.find? (·.start == p.start) = some p from h]
  rfl

theorem holds_write (m : Memory) (start len : Nat) (object : Object) :
    (m.write start len object).Holds ⟨start, len, object⟩ := by
  simp [Holds, Memory.write]

/-- Erasing memory that an object does not meet keeps the object. -/
theorem Holds.erase {m : Memory} {p : Placed} (h : m.Holds p) {start len : Nat} (hp : p.meets start len = false) :
    (m.erase start len).Holds p := by
  obtain ⟨objects⟩ := m
  unfold Holds Memory.erase at *
  dsimp only at *
  induction objects with
  | nil => cases h
  | cons q qs ih =>
    rw [List.find?_cons] at h
    by_cases hstart : (q.start == p.start) = true
    · rw [hstart] at h
      injection h with h
      subst h
      simp [hp]
    · rw [Bool.not_eq_true] at hstart
      rw [hstart] at h
      rw [List.filter_cons]
      split
      · rw [List.find?_cons, hstart]
        exact ih h
      · exact ih h

/-- Writing where an object is not keeps the object. -/
theorem Holds.write {m : Memory} {p : Placed} (h : m.Holds p) {start len : Nat} (object : Object)
    (hp : p.meets start len = false) (hstart : start ≠ p.start) : (m.write start len object).Holds p := by
  have herase := h.erase hp
  unfold Holds at *
  rw [Memory.write, List.find?_cons, show (start == p.start) = false from by simpa using hstart]
  exact herase

end BlockHeap.Memory
