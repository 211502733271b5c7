import BlockHeap.Proofs.Arena.Evolves
import BlockHeap.Proofs.Pool.Slots
import Mathlib.Data.Nat.Find

/-!
# Pools whose users are careless

A pool is *regular* when its slots are in order and its arenas were new once. Taking blocks and giving back whatever
somebody calls a block is `Work` in the arenas that exist: they evolve, each in its slot, and nothing else happens. It
keeps a pool regular (`Regular.work`).

In a regular pool it is known how the search for a block ends. Where no arena has room, each of them counts one search
more, and nothing else changes (`Regular.takeExisting_of_full`). Otherwise a block is taken from the current arena, or
else from the first one that has room (`Regular.takeExisting_of_room`).
-/

namespace BlockHeap.Pool

open Arena (Evolves)

variable {p q r : Pool} {claimed : List Nat} {i j n : Nat}

/-! ## Work in existing arenas -/

/-- The second pool is the first one at a later time: its arenas are still there, in their slots. -/
structure Onward (p q : Pool) : Prop extends Alike p q where
  arena : ∀ i r, p.slot? i = some r → ∃ a, q.slot? i = some { r with value := a } ∧ r.value.Evolves a

theorem Onward.refl (p : Pool) : p.Onward p := ⟨.refl p, fun _ r hr => ⟨r.value, hr, .refl⟩⟩

theorem Onward.trans (h : p.Onward q) (h' : q.Onward r) : p.Onward r := by
  refine ⟨h.toAlike.trans h'.toAlike, fun i r hr => ?_⟩
  obtain ⟨a, ha, hea⟩ := h.arena i r hr
  obtain ⟨b, hb, heb⟩ := h'.arena i _ ha
  exact ⟨b, hb, hea.trans heb⟩

/-- Filled slots stay filled. -/
theorem Onward.isSome_slot? (h : p.Onward q) (hi : (p.slot? i).isSome = true) : (q.slot? i).isSome = true := by
  obtain ⟨r, hr⟩ := Option.isSome_iff_exists.mp hi
  obtain ⟨a, ha, -⟩ := h.arena i r hr
  rw [ha]
  rfl

/-- A step that leaves all filled slots as they are. -/
theorem Onward.of_slots (h : p.Alike q) (hslot : ∀ i, (p.slot? i).isSome = true → q.slot? i = p.slot? i) :
    p.Onward q := by
  refine ⟨h, fun i r hr => ⟨r.value, ?_, .refl⟩⟩
  rw [hslot i (by rw [hr]; rfl)]
  exact hr

/-- The arenas evolve, each in its slot, and nothing else happens. -/
structure Work (p q : Pool) : Prop extends Steady p q where
  onward : p.Onward q

theorem Work.refl (p : Pool) : p.Work p := ⟨.refl p, .refl p⟩

theorem Work.trans (h : p.Work q) (h' : q.Work r) : p.Work r :=
  ⟨h.toSteady.trans h'.toSteady, h.onward.trans h'.onward⟩

/-- An arena is used in its slot. -/
theorem onArena_work {α : Type} (p : Pool) (i : Nat) {f : Arena → α × Arena} (hf : ∀ a, Arena.Use a (f a).2) :
    p.Work (p.onArena i f).2 := by
  cases hs : p.slot? i with
  | none =>
    rw [onArena_none hs]
    exact .refl p
  | some r =>
    have hsome : (p.slot? i).isSome = true := by rw [hs]; rfl
    rw [onArena_some hs]
    refine ⟨putSlot_steady hsome _, ⟨rfl, rfl, rfl⟩, fun j s hj => ?_⟩
    by_cases hij : j = i
    · subst hij
      obtain rfl : r = s := Option.some.inj (hs.symm.trans hj)
      exact ⟨_, slot?_putSlot_self (lt_capacity hsome) _, .single (hf r.value)⟩
    · exact ⟨s.value, (slot?_putSlot_of_ne hij _).trans hj, .refl⟩

theorem takeFrom_work (p : Pool) (i : Nat) : p.Work (p.takeFrom i).2 := by
  have hwork := p.onArena_work i Arena.Use.allocate
  rw [takeFrom]
  split
  · rename_i q hq
    rwa [hq] at hwork
  · rename_i x q hq
    rwa [hq] at hwork

/-- Making a filled slot the current one uses no arena. -/
theorem adopt_work (hi : (p.slot? i).isSome = true) : p.Work { p with current := i } :=
  ⟨adopt_steady hi, .of_slots ⟨rfl, rfl, rfl⟩ fun _ _ => rfl⟩

theorem takeFromOthers_work (n : Nat) : ∀ (p : Pool) (i : Nat), p.Work (p.takeFromOthers i n).2 := by
  induction n with
  | zero =>
    intro p i
    exact .refl p
  | succ n ih =>
    intro p i
    rw [takeFromOthers]
    split
    · exact ih p (i + 1)
    · have hwork := p.takeFrom_work i
      split
      · rename_i q hq
        rw [hq] at hwork
        exact hwork.trans (ih q (i + 1))
      · rename_i x q hq
        rw [hq] at hwork
        exact hwork.trans (adopt_work (isSome_of_takeFrom hq))
      · rename_i f q hq
        rwa [hq] at hwork

/-- **Taking a block from existing arenas.** -/
theorem takeExisting_work (p : Pool) (n : Nat) : p.Work (p.takeExisting n).2 := by
  have hwork := p.takeFrom_work p.current
  rw [takeExisting]
  split
  · rename_i q hq
    rw [hq] at hwork
    exact hwork.trans (takeFromOthers_work n q 0)
  · exact hwork

/-- **Giving back** whatever somebody calls a block. -/
theorem deallocate_work (p : Pool) (address : Nat) : p.Work (p.deallocate address).2 := by
  rw [deallocate]
  split
  · exact .refl p
  · rename_i i _
    have hwork := p.onArena_work i fun a => Arena.Use.deallocate a address
    split
    · rename_i q hq
      rwa [hq] at hwork
    · rename_i x q hq
      rwa [hq] at hwork

/-! ## Regular pools -/

/-- The slots are in order, there can be arenas of the pool's block size, and those that exist were new once. -/
structure Regular (p : Pool) (claimed : List Nat) : Prop where
  slots : p.SlotsSound claimed
  geometry : 0 < p.maxArenas → ∃ g, Arena.Geometry.ofBlockSize p.blockSize = .ok g
  arenas : ∀ i r, p.slot? i = some r → r.value.Used p.blockSize

/-- A pool without arenas is regular. -/
theorem Regular.of_empty (hcount : p.count = 0) (hcurrent : p.current = 0) (hslot : ∀ i, p.slot? i = none)
    (hgeometry : 0 < p.maxArenas → ∃ g, Arena.Geometry.ofBlockSize p.blockSize = .ok g) : p.Regular [] := by
  refine ⟨.of_empty hcount hcurrent hslot, hgeometry, fun i r hr => ?_⟩
  rw [hslot i] at hr
  cases hr

/-- **Work keeps a pool regular.** -/
theorem Regular.work (h : p.Regular claimed) (hw : p.Work q) : q.Regular claimed := by
  refine ⟨h.slots.steady hw.toSteady, ?_, fun i r hr => ?_⟩
  · rw [hw.maxArenas, hw.blockSize]
    exact h.geometry
  · have hsome : (p.slot? i).isSome = true := by
      rw [← hw.isSome_slot?, hr]
      rfl
    obtain ⟨s, hs⟩ := Option.isSome_iff_exists.mp hsome
    obtain ⟨a, ha, he⟩ := hw.onward.arena i s hs
    obtain rfl := Option.some.inj (hr.symm.trans ha)
    rw [hw.blockSize]
    exact (h.arenas i s hs).evolves he

theorem Regular.arena (h : p.Regular claimed) {r : Resident Arena} (hr : p.slot? i = some r) :
    ∃ g, r.value.Regular g := by
  obtain ⟨g, -, hg, -⟩ := (h.arenas i r hr).regular
  exact ⟨g, hg⟩

/-- Pools that agree in all slots and in all else are equal. -/
theorem ext_slots (h : p.Alike q) (hcount : q.count = p.count) (hcurrent : q.current = p.current)
    (hslot : ∀ i, q.slot? i = p.slot? i) : q = p := by
  obtain ⟨policy, blockSize, maxArenas, hle, slots, count, current⟩ := p
  obtain ⟨policy', blockSize', maxArenas', hle', slots', count', current'⟩ := q
  obtain ⟨rfl, rfl, rfl⟩ := h
  obtain rfl : slots' = slots := by
    ext1 i hi
    have hi' := hslot i
    simp only [slot?, hi, dite_true] at hi'
    exact hi'
  simp only at hcount hcurrent
  rw [hcount, hcurrent]

/-- Putting into a slot what is there changes nothing. -/
theorem putSlot_self {r : Resident Arena} (hr : p.slot? i = some r) : p.putSlot i (some r) = p := by
  refine ext_slots ⟨rfl, rfl, rfl⟩ rfl rfl fun j => ?_
  by_cases hj : j = i
  · rw [hj, slot?_putSlot_self (lt_capacity (by rw [hr]; rfl)), hr]
  · exact slot?_putSlot_of_ne hj _

/-! ## Searches that find nothing -/

/-- There is an arena in the slot, and it is not full. -/
def HasRoom (p : Pool) (i : Nat) : Prop := ∃ r, p.slot? i = some r ∧ r.value.isFull = false

/-- An arena that has counted one search more, in its place. -/
def searchedSlot (r : Resident Arena) : Resident Arena :=
  { r with value := { r.value with free := r.value.free.searched } }

/-- The pool in which each arena has counted one search more. -/
def searched (p : Pool) : Pool := { p with slots := p.slots.map (Option.map searchedSlot) }

theorem slot?_searched (p : Pool) (i : Nat) : p.searched.slot? i = (p.slot? i).map searchedSlot := by
  unfold slot? searched
  split
  · rename_i hi
    simp
  · rfl

/-- The arenas in some slots have counted one search more, and nothing else has changed. -/
structure Searched (s : Nat → Prop) (p q : Pool) : Prop extends Alike p q where
  count : q.count = p.count
  current : q.current = p.current
  inside : ∀ i, s i → q.slot? i = (p.slot? i).map searchedSlot
  outside : ∀ i, ¬s i → q.slot? i = p.slot? i

theorem Searched.refl (p : Pool) {s : Nat → Prop} (hs : ∀ i, ¬s i) : p.Searched s p :=
  ⟨.refl p, rfl, rfl, fun i hi => absurd hi (hs i), fun _ _ => rfl⟩

theorem Searched.imp {s t : Nat → Prop} (h : p.Searched s q) (hst : ∀ i, s i ↔ t i) : p.Searched t q :=
  ⟨h.toAlike, h.count, h.current, fun i hi => h.inside i ((hst i).mpr hi), fun i hi => h.outside i (mt (hst i).mp hi)⟩

/-- Two searches in different slots are one search. -/
theorem Searched.trans {s t : Nat → Prop} (h : p.Searched s q) (h' : q.Searched t r) (hst : ∀ i, s i → ¬t i) :
    p.Searched (fun i => s i ∨ t i) r := by
  refine ⟨h.toAlike.trans h'.toAlike, h'.count.trans h.count, h'.current.trans h.current, ?_, fun i hi => ?_⟩
  · rintro i (hi | hi)
    · rw [h'.outside i (hst i hi), h.inside i hi]
    · rw [h'.inside i hi, h.outside i fun hs => hst i hs hi]
  · rw [not_or] at hi
    rw [h'.outside i hi.2, h.outside i hi.1]

/-- A search in all slots that are filled. -/
theorem Searched.eq_searched {s : Nat → Prop} (h : p.Searched s q) (hs : ∀ i, (p.slot? i).isSome = true → s i) :
    q = p.searched := by
  refine ext_slots ⟨h.policy, h.blockSize, h.maxArenas⟩ h.count h.current fun i => ?_
  rw [slot?_searched]
  by_cases hi : s i
  · exact h.inside i hi
  · have hnone : p.slot? i = none := by
      rw [← Option.not_isSome_iff_eq_none]
      exact mt (hs i) hi
    rw [h.outside i hi, hnone]
    rfl

/-- Trying a slot without room. -/
theorem Regular.takeFrom_of_full (h : p.Regular claimed) (hroom : ¬p.HasRoom i) :
    ∃ q, p.takeFrom i = (.ok none, q) ∧ p.Searched (· = i) q := by
  cases hs : p.slot? i with
  | none =>
    refine ⟨p, takeFrom_none hs, .refl p, rfl, rfl, fun j hj => ?_, fun _ _ => rfl⟩
    rw [hj, hs]
    rfl
  | some r =>
    obtain ⟨g, hg⟩ := h.arena hs
    have hfull : r.value.isFull = true := by
      rw [← Bool.not_eq_false]
      exact fun hno => hroom ⟨r, hs, hno⟩
    have hcap : i < capacity := lt_capacity (by rw [hs]; rfl)
    refine ⟨p.putSlot i (some (searchedSlot r)), ?_, ⟨rfl, rfl, rfl⟩, rfl, rfl, fun j hj => ?_, fun j hj => ?_⟩
    · rw [takeFrom_some hs, hg.allocate_of_isFull hfull]
      rfl
    · rw [hj, hs, slot?_putSlot_self hcap]
      rfl
    · exact slot?_putSlot_of_ne hj _

/-- Trying slots without room, leaving out the current one. -/
theorem takeFromOthers_of_full (n : Nat) : ∀ {p : Pool} {i : Nat}, p.Regular claimed →
    (∀ j, i ≤ j → j < i + n → j ≠ p.current → ¬p.HasRoom j) →
    ∃ q, p.takeFromOthers i n = (.ok none, q) ∧ p.Searched (fun j => i ≤ j ∧ j < i + n ∧ j ≠ p.current) q := by
  induction n with
  | zero =>
    intro p i _ _
    exact ⟨p, rfl, .refl p fun j hj => by omega⟩
  | succ n ih =>
    intro p i h hroom
    rw [takeFromOthers]
    split
    · rename_i hi
      obtain ⟨q, hq, hsearched⟩ := ih (i := i + 1) h fun j h1 h2 => hroom j (by omega) (by omega)
      exact ⟨q, hq, hsearched.imp fun j => by omega⟩
    · rename_i hi
      obtain ⟨q, hq, hsearched⟩ := h.takeFrom_of_full (hroom i (Nat.le_refl _) (by omega) hi)
      have hregular := h.work (p.takeFrom_work i)
      rw [hq] at hregular
      have hcurrent : q.current = p.current := hsearched.current
      obtain ⟨r, hr, hsearched'⟩ := ih (i := i + 1) hregular fun j h1 h2 h3 => by
        rw [HasRoom, hsearched.outside j (by omega)]
        exact hroom j (by omega) (by omega) (by rwa [← hcurrent])
      refine ⟨r, by rw [hq]; exact hr, (hsearched.trans hsearched' fun j hj => by omega).imp fun j => ?_⟩
      rw [hcurrent]
      omega

/-- **Nothing to be found**: where no arena has room, each of them counts one search more. -/
theorem Regular.takeExisting_of_full (h : p.Regular claimed) (hroom : ∀ i, ¬p.HasRoom i) :
    p.takeExisting p.count = (.ok none, p.searched) := by
  obtain ⟨q, hq, hsearched⟩ := h.takeFrom_of_full (hroom p.current)
  have hregular := h.work (p.takeFrom_work p.current)
  rw [hq] at hregular
  obtain ⟨r, hr, hsearched'⟩ := takeFromOthers_of_full p.count (i := 0) hregular fun j _ _ h3 => by
    rw [HasRoom, hsearched.outside j (by rwa [← hsearched.current])]
    exact hroom j
  have hall := hsearched.trans hsearched' fun j hj => by rw [hsearched.current]; omega
  rw [takeExisting, hq]
  refine hr.trans (congrArg _ (hall.eq_searched fun i hi => ?_))
  have hlt := h.slots.lt_of_isSome i hi
  rw [hsearched.current]
  omega

/-! ## Searches that find a block -/

/-- After a search in some full slots a block at `x` was taken from the arena in slot `i`. -/
structure TookAfter (s : Nat → Prop) (p : Pool) (i x : Nat) (q : Pool) : Prop where
  full : ∀ j, s j → ¬p.HasRoom j
  taken : ∃ p' r a, p.Searched s p' ∧ p.slot? i = some r ∧ r.value.allocate = (.ok (some x), a) ∧
    q = { p'.putSlot i (some { r with value := a }) with current := i }

/-- A block at `x` was taken from the arena in slot `i`, which has become the current one. Some full arenas have counted
a search. -/
structure TookFrom (p : Pool) (i x : Nat) (q : Pool) : Prop extends Alike p q where
  count : q.count = p.count
  current : q.current = i
  slot : ∃ r a j, p.slot? i = some r ∧ r.value.allocate = (.ok (some x), a) ∧ q.slot? i = some { r with value := a } ∧
    j < r.value.blockCount ∧ x = r.value.address j
  others : ∀ j, j ≠ i → q.slot? j = p.slot? j ∨ (¬p.HasRoom j ∧ q.slot? j = (p.slot? j).map searchedSlot)

theorem TookAfter.imp {s t : Nat → Prop} {x : Nat} (h : p.TookAfter s i x q) (hst : ∀ j, s j ↔ t j) :
    p.TookAfter t i x q := by
  obtain ⟨hfull, p', r, a, hsearched, hrest⟩ := h
  exact ⟨fun j hj => hfull j ((hst j).mpr hj), p', r, a, hsearched.imp hst, hrest⟩

/-- One more search before it. -/
theorem TookAfter.after {s t : Nat → Prop} {x : Nat} (h : p.Searched s q) (hs : ∀ j, s j → ¬p.HasRoom j)
    (htook : q.TookAfter t i x r) (hi : ¬s i) (hst : ∀ j, s j → ¬t j) : p.TookAfter (fun j => s j ∨ t j) i x r := by
  obtain ⟨hfull, p', r, a, hsearched, hr, hrest⟩ := htook
  refine ⟨?_, p', r, a, h.trans hsearched hst, (h.outside i hi).symm.trans hr, hrest⟩
  rintro j (hj | hj)
  · exact hs j hj
  · have := hfull j hj
    rwa [HasRoom, h.outside j fun hsj => hst j hsj hj] at this

theorem TookAfter.tookFrom {s : Nat → Prop} {x : Nat} (h : p.TookAfter s i x q) (hp : p.Regular claimed) :
    p.TookFrom i x q := by
  obtain ⟨hfull, p', r, a, hsearched, hr, halloc, rfl⟩ := h
  have hcap : i < capacity := lt_capacity (by rw [hr]; rfl)
  refine ⟨⟨hsearched.policy, hsearched.blockSize, hsearched.maxArenas⟩, hsearched.count, rfl, ?_, fun j hj => ?_⟩
  · obtain ⟨g, hg⟩ := hp.arena hr
    have hblock : ∃ j < r.value.blockCount, x = r.value.address j := by
      rcases hg.allocate_cases with ⟨hc, h'⟩ | ⟨j, m, hj, h', -⟩ | ⟨-, h'⟩
      · rw [h'] at halloc
        cases halloc
        exact ⟨_, hc, rfl⟩
      · rw [h'] at halloc
        cases halloc
        exact ⟨j, hj, rfl⟩
      · rw [h'] at halloc
        cases halloc
    obtain ⟨j, hj, hx⟩ := hblock
    exact ⟨r, a, j, hr, halloc, slot?_putSlot_self hcap _, hj, hx⟩
  · have hput : ({ p'.putSlot i (some { r with value := a }) with current := i } : Pool).slot? j = p'.slot? j :=
      slot?_putSlot_of_ne hj _
    rw [hput]
    by_cases hs : s j
    · exact .inr ⟨hfull j hs, hsearched.inside j hs⟩
    · exact .inl (hsearched.outside j hs)

/-- Trying a slot with room. -/
theorem Regular.takeFrom_of_room (h : p.Regular claimed) (hroom : p.HasRoom i) :
    ∃ x q, p.takeFrom i = (.ok (some x), q) ∧ p.TookAfter (fun _ => False) i x { q with current := i } := by
  obtain ⟨r, hr, hfull⟩ := hroom
  obtain ⟨g, hg⟩ := h.arena hr
  obtain ⟨b, a, -, halloc⟩ := hg.allocate_of_not_isFull hfull
  exact ⟨_, _, by rw [takeFrom_some hr, halloc], fun _ hj => hj.elim, p, r, a, .refl p fun _ => id, hr, halloc, rfl⟩

/-- Trying slots of which one has room, leaving out the current one. -/
theorem takeFromOthers_of_room (n : Nat) : ∀ {p : Pool} {i : Nat}, p.Regular claimed → i ≤ j → j < i + n →
    j ≠ p.current → p.HasRoom j → (∀ l, i ≤ l → l < j → l ≠ p.current → ¬p.HasRoom l) →
    ∃ x q, p.takeFromOthers i n = (.ok (some x), q) ∧
      p.TookAfter (fun l => i ≤ l ∧ l < j ∧ l ≠ p.current) j x q := by
  induction n with
  | zero =>
    intro p i _ h1 h2
    omega
  | succ n ih =>
    intro p i h h1 h2 hne hroom hfirst
    rw [takeFromOthers]
    split
    · rename_i hi
      obtain ⟨x, q, hq, htook⟩ :=
        ih (i := i + 1) h (by omega) (by omega) hne hroom fun l k1 k2 => hfirst l (by omega) k2
      exact ⟨x, q, hq, htook.imp fun l => by omega⟩
    · rename_i hi
      rcases Nat.eq_or_lt_of_le h1 with rfl | hlt
      · obtain ⟨x, q, hq, htook⟩ := h.takeFrom_of_room hroom
        exact ⟨x, _, by rw [hq], htook.imp fun l => ⟨fun hno => hno.elim, fun hl => by omega⟩⟩
      · have hfull := hfirst i (Nat.le_refl _) hlt hi
        obtain ⟨q, hq, hsearched⟩ := h.takeFrom_of_full hfull
        have hregular := h.work (p.takeFrom_work i)
        rw [hq] at hregular
        have hcurrent : q.current = p.current := hsearched.current
        have hsame : ∀ l, l ≠ i → (q.HasRoom l ↔ p.HasRoom l) := fun l hl => by
          rw [HasRoom, HasRoom, hsearched.outside l hl]
        obtain ⟨x, r, hr, htook⟩ := ih (i := i + 1) hregular hlt (by omega) (by rwa [hcurrent])
          ((hsame j (by omega)).mpr hroom) fun l k1 k2 k3 =>
            mt (hsame l (by omega)).mp (hfirst l (by omega) k2 (by rwa [← hcurrent]))
        refine ⟨x, r, by rw [hq]; exact hr, (htook.after hsearched ?_ (Nat.ne_of_gt hlt) fun l hl => by omega).imp
          fun l => ?_⟩
        · rintro l rfl
          exact hfull
        · rw [hcurrent]
          omega

/-- **A block is found**: where an arena has room, a block is taken from the current one, or else from the first. -/
theorem Regular.takeExisting_of_room (h : p.Regular claimed) (hroom : p.HasRoom i)
    (hfirst : i = p.current ∨ (¬p.HasRoom p.current ∧ ∀ j < i, ¬p.HasRoom j)) :
    ∃ x q, p.takeExisting p.count = (.ok (some x), q) ∧ p.TookFrom i x q := by
  by_cases hcurrent : p.HasRoom p.current
  · obtain rfl : i = p.current := hfirst.resolve_right fun hno => hno.1 hcurrent
    obtain ⟨x, q, hq, htook⟩ := h.takeFrom_of_room hroom
    have hsame := p.current_takeFrom p.current
    rw [hq] at hsame
    refine ⟨x, q, by rw [takeExisting, hq], ?_⟩
    rw [← show ({ q with current := p.current } : Pool) = q by rw [← hsame]]
    exact htook.tookFrom h
  · have hne : i ≠ p.current := fun e => hcurrent (e ▸ hroom)
    obtain ⟨q, hq, hsearched⟩ := h.takeFrom_of_full hcurrent
    have hregular := h.work (p.takeFrom_work p.current)
    rw [hq] at hregular
    have hkept : q.current = p.current := hsearched.current
    have hsame : ∀ l, l ≠ p.current → (q.HasRoom l ↔ p.HasRoom l) := fun l hl => by
      rw [HasRoom, HasRoom, hsearched.outside l hl]
    have hlt : i < p.count := by
      obtain ⟨r, hr, -⟩ := hroom
      exact h.slots.lt_of_isSome i (by rw [hr]; rfl)
    obtain ⟨x, r, hr, htook⟩ := takeFromOthers_of_room p.count (i := 0) hregular (Nat.zero_le _) (by omega)
      (by rwa [hkept]) ((hsame i hne).mpr hroom) fun l _ k2 k3 =>
        mt (hsame l (by rwa [← hkept])).mp ((hfirst.resolve_left hne).2 l k2)
    refine ⟨x, r, by rw [takeExisting, hq]; exact hr, (htook.after hsearched ?_ hne fun l hl => ?_).tookFrom h⟩
    · rintro l rfl
      exact hcurrent
    · rw [hkept]
      omega

/-! ## Searches in general -/

/-- If some slot has room, the current one has, or there is a first one. -/
theorem exists_first (h : ∃ i, p.HasRoom i) :
    ∃ i, p.HasRoom i ∧ (i = p.current ∨ (¬p.HasRoom p.current ∧ ∀ j < i, ¬p.HasRoom j)) := by
  classical
  by_cases hcurrent : p.HasRoom p.current
  · exact ⟨p.current, hcurrent, .inl rfl⟩
  · exact ⟨Nat.find h, Nat.find_spec h, .inr ⟨hcurrent, fun j hj => Nat.find_min h hj⟩⟩

/-- The address is that of a block in an arena of the pool. -/
def HasBlock (p : Pool) (x : Nat) : Prop :=
  ∃ i r j, p.slot? i = some r ∧ j < r.value.blockCount ∧ x = r.value.address j

/-- The block that was taken is one of the pool's. -/
theorem TookFrom.hasBlock {x : Nat} (h : p.TookFrom i x q) (hp : p.Regular claimed) : q.HasBlock x := by
  obtain ⟨r, a, j, hr, halloc, hslot, hj, hx⟩ := h.slot
  obtain ⟨g, hg⟩ := hp.arena hr
  have hlater := hg.allocate_keeps.2
  rw [halloc] at hlater
  exact ⟨i, _, j, hslot, Nat.lt_of_lt_of_eq hj hlater.blockCount.symm, hx.trans (hlater.address j).symm⟩

/-- **A search never fails**: it finds a block, or nothing. -/
theorem Regular.takeExisting_cases (h : p.Regular claimed) :
    (∃ x q, p.takeExisting p.count = (.ok (some x), q) ∧ q.HasBlock x) ∨
    (∃ q, p.takeExisting p.count = (.ok none, q)) := by
  by_cases hroom : ∃ i, p.HasRoom i
  · obtain ⟨i, hi, hfirst⟩ := exists_first hroom
    obtain ⟨x, q, hq, htook⟩ := h.takeExisting_of_room hi hfirst
    exact .inl ⟨x, q, hq, htook.hasBlock h⟩
  · exact .inr ⟨_, h.takeExisting_of_full (not_exists.mp hroom)⟩

/-- Trying one slot never fails. -/
theorem Regular.takeFrom_cases (h : p.Regular claimed) (i : Nat) :
    (∃ x q, p.takeFrom i = (.ok (some x), q) ∧ q.HasBlock x) ∨ (∃ q, p.takeFrom i = (.ok none, q)) := by
  by_cases hroom : p.HasRoom i
  · obtain ⟨x, q, hq, htook⟩ := h.takeFrom_of_room hroom
    -- the current slot is of no account for the blocks
    exact .inl ⟨x, q, hq, (htook.tookFrom h).hasBlock h⟩
  · obtain ⟨q, hq, -⟩ := h.takeFrom_of_full hroom
    exact .inr ⟨q, hq⟩

end BlockHeap.Pool
