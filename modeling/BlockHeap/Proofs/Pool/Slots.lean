import BlockHeap.Pool.Basic

/-!
# The slots of a pool

Two relations say what the steps of a pool do to its slots.

- `Steady`: the same slots are filled, and as many are counted. Taking blocks and giving them back is steady
  (`takeExisting_steady`, `deallocate_steady`).
- `SlotsSound p held`: with the slots `held` claimed by growths in progress, what is claimed is counted and empty, and
  what is filled is counted. Claiming, filling and giving back slots keep this (`SlotsSound.claim`, `SlotsSound.store`,
  `SlotsSound.giveBack`), in any order.
-/

namespace BlockHeap.Pool

/-! ## Single slots -/

theorem lt_capacity {p : Pool} {i : Nat} (h : (p.slot? i).isSome = true) : i < capacity := by
  unfold slot? at h
  split at h
  · assumption
  · cases h

theorem slot?_putSlot {p : Pool} {i : Nat} (hi : i < capacity) (x : Option (Resident Arena)) (j : Nat) :
    (p.putSlot i x).slot? j = if j = i then x else p.slot? j := by
  unfold slot? putSlot
  by_cases hj : j < capacity
  · simp only [hj, dite_true, Vector.getElem_setIfInBounds, eq_comm]
  · have hne : j ≠ i := fun e => hj (e ▸ hi)
    simp only [hj, hne, dite_false, if_false]

@[simp] theorem slot?_putSlot_self {p : Pool} {i : Nat} (hi : i < capacity) (x : Option (Resident Arena)) :
    (p.putSlot i x).slot? i = x := by
  rw [slot?_putSlot hi, if_pos rfl]

theorem slot?_putSlot_of_ne {p : Pool} {i j : Nat} (hj : j ≠ i) (x : Option (Resident Arena)) :
    (p.putSlot i x).slot? j = p.slot? j := by
  unfold slot? putSlot
  split
  · simp only [Vector.getElem_setIfInBounds, hj.symm, if_false]
  · rfl

theorem onArena_none {α : Type} {p : Pool} {i : Nat} (h : p.slot? i = none) (f : Arena → α × Arena) :
    p.onArena i f = (none, p) := by
  unfold slot? at h
  rw [onArena, takeSlot]
  split at h
  · rename_i hi
    have hset : p.slots.set i none = p.slots := by
      rw [← h]
      exact Vector.set_getElem_self hi
    simp only [hi, dite_true, h, hset]
  · rename_i hi
    simp only [hi, dite_false]

theorem onArena_some {α : Type} {p : Pool} {i : Nat} {r : Resident Arena} (h : p.slot? i = some r)
    (f : Arena → α × Arena) :
    p.onArena i f = (some (f r.value).1, p.putSlot i (some { r with value := (f r.value).2 })) := by
  have hi : i < capacity := lt_capacity (by rw [h]; rfl)
  rw [slot?, dif_pos hi] at h
  have hset : ∀ x, (p.slots.set i none).setIfInBounds i x = p.slots.setIfInBounds i x := by
    intro x
    ext j hj
    simp only [Vector.getElem_setIfInBounds, Vector.getElem_set]
    split <;> rfl
  rw [onArena, takeSlot]
  simp only [hi, dite_true, h, putSlot, hset]

theorem takeFrom_none {p : Pool} {i : Nat} (h : p.slot? i = none) : p.takeFrom i = (.ok none, p) := by
  rw [takeFrom, onArena_none h]

theorem takeFrom_some {p : Pool} {i : Nat} {r : Resident Arena} (h : p.slot? i = some r) :
    p.takeFrom i = (r.value.allocate.1, p.putSlot i (some { r with value := r.value.allocate.2 })) := by
  rw [takeFrom, onArena_some h]

/-! ## Steady steps -/

/-- The pools have the same settings. -/
structure Alike (p q : Pool) : Prop where
  policy : q.policy = p.policy
  blockSize : q.blockSize = p.blockSize
  maxArenas : q.maxArenas = p.maxArenas

theorem Alike.refl (p : Pool) : p.Alike p := ⟨rfl, rfl, rfl⟩

theorem Alike.symm {p q : Pool} (h : p.Alike q) : q.Alike p := ⟨h.policy.symm, h.blockSize.symm, h.maxArenas.symm⟩

theorem Alike.trans {p q r : Pool} (h : p.Alike q) (h' : q.Alike r) : p.Alike r :=
  ⟨h'.policy.trans h.policy, h'.blockSize.trans h.blockSize, h'.maxArenas.trans h.maxArenas⟩

/-- The same slots are filled and counted, and the current slot is the same or else a filled one. -/
structure Steady (p q : Pool) : Prop extends Alike p q where
  count : q.count = p.count
  isSome_slot? : ∀ i, (q.slot? i).isSome = (p.slot? i).isSome
  current : q.current = p.current ∨ (q.slot? q.current).isSome = true

theorem Steady.refl (p : Pool) : p.Steady p := ⟨Alike.refl p, rfl, fun _ => rfl, .inl rfl⟩

theorem Steady.trans {p q r : Pool} (h : p.Steady q) (h' : q.Steady r) : p.Steady r := by
  refine ⟨h.toAlike.trans h'.toAlike, h'.count.trans h.count, fun i => (h'.isSome_slot? i).trans (h.isSome_slot? i), ?_⟩
  rcases h'.current with e | e
  · rw [e, h'.isSome_slot?]
    exact h.current
  · exact .inr e

/-- Replacing one arena by another is steady. -/
theorem putSlot_steady {p : Pool} {i : Nat} (h : (p.slot? i).isSome = true) (r : Resident Arena) :
    p.Steady (p.putSlot i (some r)) := by
  refine ⟨⟨rfl, rfl, rfl⟩, rfl, fun j => ?_, .inl rfl⟩
  by_cases hj : j = i
  · rw [hj, slot?_putSlot_self (lt_capacity h), h]
    rfl
  · rw [slot?_putSlot_of_ne hj]

theorem onArena_steady {α : Type} (p : Pool) (i : Nat) (f : Arena → α × Arena) : p.Steady (p.onArena i f).2 := by
  cases h : p.slot? i with
  | none =>
    rw [onArena_none h]
    exact .refl p
  | some r =>
    rw [onArena_some h]
    exact putSlot_steady (by rw [h]; rfl) _

theorem takeFrom_steady (p : Pool) (i : Nat) : p.Steady (p.takeFrom i).2 := by
  cases h : p.slot? i with
  | none =>
    rw [takeFrom_none h]
    exact .refl p
  | some r =>
    rw [takeFrom_some h]
    exact putSlot_steady (by rw [h]; rfl) _

/-- Where a block was taken there is an arena. -/
theorem isSome_of_takeFrom {p q : Pool} {i a : Nat} (h : p.takeFrom i = (.ok (some a), q)) :
    (q.slot? i).isSome = true := by
  cases hs : p.slot? i with
  | none =>
    rw [takeFrom_none hs] at h
    cases h
  | some r =>
    have hq : q = (p.takeFrom i).2 := by rw [h]
    rw [hq, (p.takeFrom_steady i).isSome_slot?, hs]
    rfl

/-- Making a filled slot the current one is steady. -/
theorem adopt_steady {p : Pool} {i : Nat} (h : (p.slot? i).isSome = true) : p.Steady { p with current := i } :=
  ⟨⟨rfl, rfl, rfl⟩, rfl, fun _ => rfl, .inr h⟩

theorem takeFromOthers_steady (n : Nat) : ∀ (p : Pool) (i : Nat), p.Steady (p.takeFromOthers i n).2 := by
  induction n with
  | zero =>
    intro p i
    exact .refl p
  | succ n ih =>
    intro p i
    rw [takeFromOthers]
    split
    · exact ih p (i + 1)
    · have hsteady := p.takeFrom_steady i
      split
      · rename_i q hq
        rw [hq] at hsteady
        exact hsteady.trans (ih q (i + 1))
      · rename_i a q hq
        rw [hq] at hsteady
        exact hsteady.trans (adopt_steady (isSome_of_takeFrom hq))
      · rename_i f q hq
        rw [hq] at hsteady
        exact hsteady

/-- Taking a block from an existing arena is steady. -/
theorem takeExisting_steady (p : Pool) (n : Nat) : p.Steady (p.takeExisting n).2 := by
  have hsteady := p.takeFrom_steady p.current
  rw [takeExisting]
  split
  · rename_i q hq
    rw [hq] at hsteady
    exact hsteady.trans (takeFromOthers_steady n q 0)
  · exact hsteady

/-- Giving a slot back keeps the settings. -/
theorem giveBack_alike (p : Pool) (i : Nat) : p.Alike (p.giveBack i).2 := by
  unfold giveBack
  split
  · exact ⟨rfl, rfl, rfl⟩
  · exact .refl p

/-- Giving a block back is steady. -/
theorem deallocate_steady (p : Pool) (address : Nat) : p.Steady (p.deallocate address).2 := by
  rw [deallocate]
  split
  · exact .refl p
  · rename_i i _
    have hsteady := p.onArena_steady i (·.deallocate address)
    split
    · rename_i q hq
      rw [hq] at hsteady
      exact hsteady
    · rename_i r q hq
      rw [hq] at hsteady
      exact hsteady

/-! ## Scans -/

/-- Slots other than the one from which a block was taken stay as they are. -/
theorem slot?_takeFrom_of_ne {p : Pool} {i j : Nat} (h : j ≠ i) : (p.takeFrom i).2.slot? j = p.slot? j := by
  cases hs : p.slot? i with
  | none => rw [takeFrom_none hs]
  | some r =>
    rw [takeFrom_some hs]
    exact slot?_putSlot_of_ne h _

theorem current_takeFrom (p : Pool) (i : Nat) : (p.takeFrom i).2.current = p.current := by
  cases h : p.slot? i with
  | none => rw [takeFrom_none h]
  | some r =>
    rw [takeFrom_some h]
    rfl

/-- If no other slot has a block, none of their arenas has one. -/
theorem allocate_of_takeFromOthers (n : Nat) : ∀ {p : Pool} {i : Nat}, (p.takeFromOthers i n).1 = .ok none →
    ∀ j r, i ≤ j → j < i + n → j ≠ p.current → p.slot? j = some r → r.value.allocate.1 = .ok none := by
  induction n with
  | zero =>
    intro p i _ j r h1 h2
    omega
  | succ n ih =>
    intro p i h j r h1 h2 hne hr
    rw [takeFromOthers] at h
    split at h
    · exact ih h j r (by omega) (by omega) hne hr
    · have hother : ∀ k, k ≠ i → (p.takeFrom i).2.slot? k = p.slot? k := fun k hk => slot?_takeFrom_of_ne hk
      split at h
      · rename_i q hq
        by_cases hj : j = i
        · subst hj
          rw [takeFrom_some hr] at hq
          injection hq
        · have hcurrent := p.current_takeFrom i
          rw [hq] at hother hcurrent
          exact ih h j r (by omega) (by omega) (by rw [hcurrent]; exact hne) ((hother j hj).trans hr)
      · cases h
      · cases h

/-- **The scan for a block misses no arena**: if it finds none below slot `n`, no arena there has one. -/
theorem allocate_of_takeExisting {p : Pool} {n : Nat} (h : (p.takeExisting n).1 = .ok none) {i : Nat}
    {r : Resident Arena} (hi : i < n) (hr : p.slot? i = some r) : r.value.allocate.1 = .ok none := by
  rw [takeExisting] at h
  have hother : ∀ k, k ≠ p.current → (p.takeFrom p.current).2.slot? k = p.slot? k := fun k hk => slot?_takeFrom_of_ne hk
  have hcurrent := p.current_takeFrom p.current
  split at h
  · rename_i q hq
    by_cases hc : i = p.current
    · subst hc
      rw [takeFrom_some hr] at hq
      injection hq
    · rw [hq] at hother hcurrent
      exact allocate_of_takeFromOthers n h i r (Nat.zero_le _) (by omega) (by rw [hcurrent]; exact hc)
        ((hother i hc).trans hr)
  · rename_i hne
    exact (hne _ (Prod.ext h rfl)).elim

/-- The slot that a scan for the owner of an address finds. -/
theorem of_ownerFrom {p : Pool} {address k : Nat} (n : Nat) : ∀ {i : Nat}, p.ownerFrom address i n = some k →
    i ≤ k ∧ k < i + n ∧ ∃ r, p.slot? k = some r ∧ r.value.owns address = true := by
  induction n with
  | zero =>
    intro i h
    cases h
  | succ n ih =>
    intro i h
    rw [ownerFrom] at h
    split at h
    · obtain ⟨h1, h2, h3⟩ := ih h
      exact ⟨by omega, by omega, h3⟩
    · rename_i r hr
      split at h
      · rename_i howns
        injection h with h
        subst h
        exact ⟨Nat.le_refl _, by omega, r, hr, howns⟩
      · obtain ⟨h1, h2, h3⟩ := ih h
        exact ⟨by omega, by omega, h3⟩

theorem ownerFrom_isSome {p : Pool} {address k : Nat} {r : Resident Arena} (hr : p.slot? k = some r)
    (howns : r.value.owns address = true) (n : Nat) :
    ∀ {i : Nat}, i ≤ k → k < i + n → (p.ownerFrom address i n).isSome = true := by
  induction n with
  | zero =>
    intro i h1 h2
    omega
  | succ n ih =>
    intro i h1 h2
    rw [ownerFrom]
    by_cases hi : i = k
    · subst hi
      rw [hr]
      simp [howns]
    · have hnext := ih (i := i + 1) (by omega) (by omega)
      split
      · exact hnext
      · split
        · rfl
        · exact hnext

/-- **The scan for an owner misses no arena** in a counted slot. -/
theorem owner?_isSome {p : Pool} {address i : Nat} {r : Resident Arena} (hi : i < p.count) (hr : p.slot? i = some r)
    (howns : r.value.owns address = true) : (p.owner? address).isSome = true := by
  have hcap : i < capacity := lt_capacity (by rw [hr]; rfl)
  exact ownerFrom_isSome hr howns _ (Nat.zero_le _) (by omega)

/-! ## Claimed slots -/

/-- With the slots `held` claimed by growths in progress: what is claimed is counted, once, and empty; what is filled
is counted; and the current slot is filled unless it is the first. -/
structure SlotsSound (p : Pool) (held : List Nat) : Prop where
  count_le : p.count ≤ p.maxArenas
  nodup : held.Nodup
  lt_count : ∀ i ∈ held, i < p.count
  slot_held : ∀ i ∈ held, p.slot? i = none
  lt_of_isSome : ∀ i, (p.slot? i).isSome = true → i < p.count
  current : p.current = 0 ∨ (p.slot? p.current).isSome = true

variable {p q : Pool} {held : List Nat} {i : Nat}

theorem slot?_create {policy : Policy} {size n : Nat} (h : create policy size n = .ok p) : p.slot? i = none := by
  unfold create at h
  split at h
  · cases h
    simp [slot?]
  · cases h

theorem create_eq {policy : Policy} {size n : Nat} (h : create policy size n = .ok p) :
    p.policy = policy ∧ p.blockSize = size ∧ p.maxArenas = n ∧ p.count = 0 ∧ p.current = 0 ∧ 1 ≤ n := by
  unfold create at h
  split at h
  · rename_i hn
    cases h
    exact ⟨rfl, rfl, rfl, rfl, rfl, hn.1⟩
  · cases h

/-- A pool without arenas. -/
theorem SlotsSound.of_empty (hcount : p.count = 0) (hcurrent : p.current = 0) (hslot : ∀ i, p.slot? i = none) :
    p.SlotsSound [] := by
  refine ⟨by omega, .nil, by simp, by simp, fun i hi => ?_, .inl hcurrent⟩
  rw [hslot i] at hi
  cases hi

theorem SlotsSound.steady (h : p.SlotsSound held) (hs : p.Steady q) : q.SlotsSound held where
  count_le := by
    rw [hs.count, hs.maxArenas]
    exact h.count_le
  nodup := h.nodup
  lt_count i hi := by
    rw [hs.count]
    exact h.lt_count i hi
  slot_held i hi := by
    rw [← Option.isNone_iff_eq_none, ← Option.not_isSome, hs.isSome_slot?, h.slot_held i hi]
    rfl
  lt_of_isSome i hi := by
    rw [hs.count]
    exact h.lt_of_isSome i (by rwa [← hs.isSome_slot?])
  current := by
    rcases hs.current with e | e
    · rw [e, hs.isSome_slot?]
      exact h.current
    · exact .inr e

/-- **Claiming the next slot.** -/
theorem SlotsSound.claim (h : p.SlotsSound held) (hlt : p.count < p.maxArenas) :
    ({ p with count := p.count + 1 } : Pool).SlotsSound (p.count :: held) where
  count_le := hlt
  nodup := List.nodup_cons.mpr ⟨fun hmem => Nat.lt_irrefl _ (h.lt_count _ hmem), h.nodup⟩
  lt_count i hi := by
    rcases List.mem_cons.mp hi with rfl | hi
    · exact Nat.lt_succ_self _
    · exact Nat.lt_succ_of_lt (h.lt_count i hi)
  slot_held i hi := by
    rcases List.mem_cons.mp hi with rfl | hi
    · cases hs : p.slot? p.count with
      | none => exact hs
      | some r => exact absurd (h.lt_of_isSome p.count (by rw [hs]; rfl)) (Nat.lt_irrefl _)
    · exact h.slot_held i hi
  lt_of_isSome i hi := Nat.lt_succ_of_lt (h.lt_of_isSome i hi)
  current := h.current

theorem SlotsSound.held_lt_capacity (h : p.SlotsSound held) (hi : i ∈ held) : i < capacity :=
  Nat.lt_of_lt_of_le (h.lt_count i hi) (Nat.le_trans h.count_le p.maxArenas_le)

theorem SlotsSound.mem_erase_iff (h : p.SlotsSound held) {j : Nat} : j ∈ held.erase i ↔ j ≠ i ∧ j ∈ held :=
  h.nodup.mem_erase_iff

/-- **Putting an arena into a claimed slot.** -/
theorem SlotsSound.store (h : p.SlotsSound held) (hi : i ∈ held) (r : Resident Arena) :
    (p.putSlot i (some r)).SlotsSound (held.erase i) where
  count_le := h.count_le
  nodup := h.nodup.erase i
  lt_count j hj := h.lt_count j (List.mem_of_mem_erase hj)
  slot_held j hj := by
    obtain ⟨hne, hj⟩ := h.mem_erase_iff.mp hj
    rw [slot?_putSlot_of_ne hne]
    exact h.slot_held j hj
  lt_of_isSome j hj := by
    by_cases hne : j = i
    · rw [hne]
      exact h.lt_count i hi
    · rw [slot?_putSlot_of_ne hne] at hj
      exact h.lt_of_isSome j hj
  current := by
    rcases h.current with e | e
    · exact .inl e
    · refine .inr ?_
      by_cases hne : p.current = i
      · rw [hne, h.slot_held i hi] at e
        cases e
      · exact (congrArg Option.isSome (slot?_putSlot_of_ne hne _)).trans e

theorem SlotsSound.publish (h : p.SlotsSound held) (hi : i ∈ held) (r : Resident Arena) :
    (p.publish i r).SlotsSound (held.erase i) := by
  refine (h.store hi r).steady (adopt_steady ?_)
  rw [slot?_putSlot_self (h.held_lt_capacity hi)]
  rfl

/-- **Giving a claimed slot back**, or giving it up when it is not the last one. -/
theorem SlotsSound.giveBack (h : p.SlotsSound held) (hi : i ∈ held) : (p.giveBack i).2.SlotsSound (held.erase i) := by
  unfold Pool.giveBack
  split
  · rename_i hcount
    have hlt := h.lt_count i hi
    have hle := h.count_le
    refine ⟨?_, h.nodup.erase i, fun j hj => ?_, fun j hj => ?_, fun j hj => ?_, h.current⟩
    · show i ≤ p.maxArenas
      omega
    · obtain ⟨hne, hj⟩ := h.mem_erase_iff.mp hj
      have := h.lt_count j hj
      show j < i
      omega
    · exact h.slot_held j (List.mem_of_mem_erase hj)
    · have hne : j ≠ i := by
        rintro rfl
        rw [show ({ p with count := j } : Pool).slot? j = p.slot? j from rfl, h.slot_held j hi] at hj
        cases hj
      have := h.lt_of_isSome j hj
      show j < i
      omega
  · exact ⟨h.count_le, h.nodup.erase i, fun j hj => h.lt_count j (List.mem_of_mem_erase hj),
      fun j hj => h.slot_held j (List.mem_of_mem_erase hj), h.lt_of_isSome, h.current⟩

end BlockHeap.Pool
