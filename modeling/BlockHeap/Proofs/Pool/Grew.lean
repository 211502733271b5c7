import BlockHeap.Event
import BlockHeap.Proofs.Pool.Slots

/-!
# How whole operations change the slots

A pool *grew* to a later one when whole operations lie between them, those that others carried out in their growths
included. The filled slots are then the old ones and those that the logged events tell of, which lie from the old count
on; and the count is one behind a slot that was filled in between, or the old one if there was none.

This goes on from one stretch of operations to the next (`Grew.trans`), and it goes from what happens while a slot is
claimed to the whole growth of that slot, whether an arena is put into it in the end (`Grew.publish`) or not
(`Grew.giveBack`). The slot is given back unless some other one was filled in the meantime (`Grew.giveBack_iff`).
-/

namespace BlockHeap

/-- The events tell that an arena was put into the slot. -/
def Publishes (events : List Event) (slot : Nat) : Prop :=
  ∃ policy blockSize, Event.poolGrew policy blockSize slot ∈ events

variable {events later : List Event} {i slot : Nat}

@[simp] theorem publishes_nil (slot : Nat) : ¬Publishes [] slot := by simp [Publishes]

@[simp] theorem publishes_append :
    Publishes (events ++ later) slot ↔ Publishes events slot ∨ Publishes later slot := by
  simp only [Publishes, List.mem_append, exists_or]

@[simp] theorem publishes_poolGrew {policy : Policy} {blockSize : Nat} :
    Publishes [.poolGrew policy blockSize i] slot ↔ slot = i := by
  simp [Publishes, eq_comm]

/-- A growth that fails publishes nothing. -/
@[simp] theorem publishes_growthFailed {policy : Policy} {blockSize : Nat} {givenBack : Bool} :
    ¬Publishes [.growthFailed policy blockSize i givenBack] slot := by
  simp [Publishes]

namespace Pool

variable {p q r : Pool}

/-- Whole operations, which have logged the events, lead from one pool to the other. -/
structure Grew (p : Pool) (events : List Event) (q : Pool) : Prop where
  filled : ∀ i, (q.slot? i).isSome = true ↔ (p.slot? i).isSome = true ∨ Publishes events i
  above : ∀ i, Publishes events i → p.count ≤ i
  top : ((∀ i, ¬Publishes events i) ∧ q.count = p.count) ∨ ∃ i, Publishes events i ∧ q.count = i + 1

/-- Nothing was published. -/
theorem Grew.of_steady (h : p.Steady q) (hno : ∀ i, ¬Publishes events i) : p.Grew events q := by
  refine ⟨fun i => ?_, fun i hi => absurd hi (hno i), .inl ⟨hno, h.count⟩⟩
  simp [h.isSome_slot? i, hno i]

/-- Only what the events tell of arenas matters. -/
theorem Grew.congr (h : p.Grew events q) (hiff : ∀ i, Publishes later i ↔ Publishes events i) : p.Grew later q := by
  refine ⟨fun i => ?_, fun i hi => h.above i ((hiff i).mp hi), ?_⟩
  · rw [h.filled, hiff]
  · simpa only [hiff] using h.top

theorem Grew.count_le (h : p.Grew events q) : p.count ≤ q.count := by
  rcases h.top with ⟨-, htop⟩ | ⟨i, hi, htop⟩
  · omega
  · have := h.above i hi
    omega

/-- **One stretch of operations after the other.** -/
theorem Grew.trans (h : p.Grew events q) (h' : q.Grew later r) : p.Grew (events ++ later) r := by
  refine ⟨fun i => ?_, fun i hi => ?_, ?_⟩
  · rw [h'.filled, h.filled, publishes_append, or_assoc]
  · rcases publishes_append.mp hi with hi | hi
    · exact h.above i hi
    · exact Nat.le_trans h.count_le (h'.above i hi)
  · rcases h'.top with ⟨hno, htop⟩ | ⟨i, hi, htop⟩
    · rcases h.top with ⟨hno', htop'⟩ | ⟨i, hi, htop'⟩
      · exact .inl ⟨fun i => by simp [hno i, hno' i], htop.trans htop'⟩
      · exact .inr ⟨i, publishes_append.mpr (.inl hi), htop.trans htop'⟩
    · exact .inr ⟨i, publishes_append.mpr (.inr hi), htop⟩

/-- Work in the arenas that exist comes after. -/
theorem Grew.steady (h : p.Grew events q) (hs : q.Steady r) : p.Grew events r := by
  have hrest := h.trans (Grew.of_steady hs publishes_nil)
  rwa [List.append_nil] at hrest

/-- Where no arena was published, the count and the filled slots are as they were. -/
theorem Grew.unchanged (h : p.Grew events q) (hno : ∀ i, ¬Publishes events i) :
    q.count = p.count ∧ ∀ i, (q.slot? i).isSome = (p.slot? i).isSome := by
  refine ⟨?_, fun i => ?_⟩
  · rcases h.top with ⟨-, htop⟩ | ⟨i, hi, -⟩
    · exact htop
    · exact absurd hi (hno i)
  · rw [Bool.eq_iff_iff, h.filled, or_iff_left (hno i)]

/-- The last slot counted is filled, if any is counted. -/
def LastFilled (p : Pool) : Prop := p.count = 0 ∨ (p.slot? (p.count - 1)).isSome = true

/-- A pool that has grown from nothing. -/
theorem Grew.lastFilled (h : p.Grew events q) (hcount : p.count = 0) : q.LastFilled := by
  rcases h.top with ⟨-, htop⟩ | ⟨i, hi, htop⟩
  · exact .inl (htop.trans hcount)
  · refine .inr ?_
    rw [htop, Nat.add_sub_cancel, h.filled]
    exact .inr hi

/-! ## Growths -/

/-- The pool with its next slot claimed. -/
def claimNext (p : Pool) : Pool := { p with count := p.count + 1 }

/-- **A growth that puts an arena into its slot.** -/
theorem Grew.publish (h : p.claimNext.Grew events q) (hslot : p.count < capacity) (resident : Resident Arena)
    (policy : Policy) (blockSize : Nat) :
    p.Grew (events ++ [.poolGrew policy blockSize p.count]) (q.publish p.count resident) := by
  have hput : ∀ i, ((q.publish p.count resident).slot? i).isSome = true ↔
      (q.slot? i).isSome = true ∨ i = p.count := fun i => by
    by_cases hi : i = p.count
    · subst hi
      simp [show ((q.publish p.count resident).slot? p.count) = some resident from slot?_putSlot_self hslot _]
    · simp [show ((q.publish p.count resident).slot? i) = q.slot? i from slot?_putSlot_of_ne hi _, hi]
  refine ⟨fun i => ?_, fun i hi => ?_, .inr ?_⟩
  · rw [hput, h.filled, publishes_append, publishes_poolGrew, or_assoc]
    rfl
  · rcases publishes_append.mp hi with hi | hi
    · exact Nat.le_of_succ_le (h.above i hi)
    · exact Nat.le_of_eq (publishes_poolGrew.mp hi).symm
  · rcases h.top with ⟨-, htop⟩ | ⟨i, hi, htop⟩
    · exact ⟨p.count, by simp, htop⟩
    · exact ⟨i, publishes_append.mpr (.inl hi), htop⟩

/-- **The slot is given back** unless another one was filled while it was claimed. -/
theorem Grew.giveBack_iff (h : p.claimNext.Grew events q) :
    (q.giveBack p.count).1 = false ↔ ∃ i, Publishes events i := by
  unfold Pool.giveBack
  rcases h.top with ⟨hno, htop⟩ | ⟨i, hi, htop⟩
  · have hcount : q.count = p.count + 1 := htop
    simp [hcount, hno]
  · have habove : p.count + 1 ≤ i := h.above i hi
    rw [if_neg (by omega)]
    simp only [true_iff]
    exact ⟨i, hi⟩

/-- **A growth that fails.** -/
theorem Grew.giveBack (h : p.claimNext.Grew events q) : p.Grew events (q.giveBack p.count).2 := by
  have habove : ∀ i, Publishes events i → p.count + 1 ≤ i := h.above
  unfold Pool.giveBack
  rcases h.top with ⟨hno, htop⟩ | ⟨i, hi, htop⟩
  · rw [if_pos (show q.count = p.count + 1 from htop)]
    exact ⟨h.filled, fun i hi => Nat.le_of_succ_le (habove i hi), .inl ⟨hno, rfl⟩⟩
  · have hcount := habove i hi
    rw [if_neg (by omega)]
    exact ⟨h.filled, fun i hi => Nat.le_of_succ_le (habove i hi), .inr ⟨i, hi, htop⟩⟩

end Pool

end BlockHeap
