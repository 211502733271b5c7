import BlockHeap.Event
import BlockHeap.Proofs.Arena.Blocks
import BlockHeap.Proofs.Pool.Slots
import Mathlib.Logic.Relation

/-!
# The protocol of growth slots

Any number of growths of a pool may be in progress at once. Each has claimed a slot, and ends by putting its arena there
or by giving the slot back; the ends come in any order, and blocks are taken and given back in between. `Growths` is a
pool with the slots of the growths in progress and the failures logged so far, and `Step` is one step of anybody.

- A step keeps the invariant `Inv` (`Step.inv`): the counted slots that are neither filled nor claimed are those whose
  loss was logged, each of them once.
- So in every state that is reached each counted slot is filled, claimed by one growth, or lost for ever
  (`reaches_orderly`), and none of these is ever mistaken for another.
-/

namespace BlockHeap.Pool

/-- A pool with the slots that growths in progress have claimed, and the failed growths logged so far. -/
structure Growths where
  pool : Pool
  claimed : List Nat
  log : List Event

namespace Growths

/-- The pool changes, and nothing else. -/
def withPool (s : Growths) (q : Pool) : Growths := { s with pool := q }

/-- A growth starts with slot `n`. -/
def start (s : Growths) (n : Nat) : Growths := { s with pool := (s.pool.claimSlot n).2, claimed := n :: s.claimed }

/-- The growth of slot `i` puts its arena there. -/
def store (s : Growths) (i : Nat) (r : Resident Arena) : Growths :=
  { s with pool := s.pool.putSlot i (some r), claimed := s.claimed.erase i }

/-- The growth of slot `i` fails: it gives the slot back if it can, and logs whether it could. -/
def fail (s : Growths) (i : Nat) : Growths :=
  let r := s.pool.giveBack i
  ⟨r.2, s.claimed.erase i, s.log ++ [.growthFailed s.pool.policy s.pool.blockSize i r.1]⟩

/-- One step of one of those who use the pool. -/
inductive Step : Growths → Growths → Prop where
  /-- Somebody tries all existing arenas. -/
  | takeExisting (s : Growths) (n : Nat) : Step s (s.withPool (s.pool.takeExisting n).2)
  /-- Somebody tries the arena in one slot. -/
  | takeFrom (s : Growths) (i : Nat) : Step s (s.withPool (s.pool.takeFrom i).2)
  /-- Somebody gives a block back. -/
  | deallocate (s : Growths) (address : Nat) : Step s (s.withPool (s.pool.deallocate address).2)
  /-- A growth claims the slot `n` that it took for the next one, and it is. -/
  | start (s : Growths) {n : Nat} (hn : n < s.pool.maxArenas) (h : (s.pool.claimSlot n).1 = true) : Step s (s.start n)
  /-- A growth cannot start, as slot `n` is not the next one any more. -/
  | miss (s : Growths) {n : Nat} (h : (s.pool.claimSlot n).1 = false) : Step s (s.withPool (s.pool.claimSlot n).2)
  /-- A growth puts its arena into its slot. -/
  | store (s : Growths) {i : Nat} (hi : i ∈ s.claimed) (r : Resident Arena) : Step s (s.store i r)
  /-- Somebody makes the arena in a slot the current one. -/
  | adopt (s : Growths) {i : Nat} (hi : (s.pool.slot? i).isSome = true) :
    Step s (s.withPool { s.pool with current := i })
  /-- A growth does both at once, as `publish` does. -/
  | publish (s : Growths) {i : Nat} (hi : i ∈ s.claimed) (r : Resident Arena) :
    Step s ((s.store i r).withPool (s.pool.publish i r))
  /-- A growth fails. -/
  | fail (s : Growths) {i : Nat} (hi : i ∈ s.claimed) : Step s (s.fail i)

/-- Steps in any number and order. -/
abbrev Reaches : Growths → Growths → Prop := Relation.ReflTransGen Step

/-- How often it was logged that a slot could not be given back. -/
def losses (s : Growths) (i : Nat) : Nat := s.log.count (.growthFailed s.pool.policy s.pool.blockSize i false)

/-! ## The invariant -/

/-- A counted slot that is neither filled nor claimed. -/
def Idle (s : Growths) (i : Nat) : Prop := i < s.pool.count ∧ i ∉ s.claimed ∧ s.pool.slot? i = none

/-- The slots are in order, and the idle ones are those whose loss was logged. -/
structure Inv (s : Growths) : Prop where
  slots : s.pool.SlotsSound s.claimed
  losses_idle : ∀ i, s.Idle i → s.losses i = 1
  losses_not_idle : ∀ i, ¬s.Idle i → s.losses i = 0

/-- Logging the failure of a growth counts for its own slot, if it was lost. -/
theorem count_snoc (log : List Event) (policy : Policy) (size i j : Nat) (given : Bool) :
    (log ++ [Event.growthFailed policy size i given]).count (Event.growthFailed policy size j false) =
      log.count (Event.growthFailed policy size j false) + if i = j ∧ given = false then 1 else 0 := by
  rw [List.count_append, List.count_singleton]
  congr 1
  simp

theorem claimSlot_count (p : Pool) : p.claimSlot p.count = (true, { p with count := p.count + 1 }) := if_pos rfl

theorem claimSlot_eq {p : Pool} {n : Nat} (h : (p.claimSlot n).1 = true) : n = p.count := by
  unfold claimSlot at h
  split at h
  · rename_i hn
    exact hn.symm
  · cases h

theorem claimSlot_of_false {p : Pool} {n : Nat} (h : (p.claimSlot n).1 = false) : (p.claimSlot n).2 = p := by
  unfold claimSlot at h ⊢
  split at h
  · cases h
  · rename_i hn
    rw [if_neg hn]

/-- A steady step keeps the invariant. -/
theorem Inv.steady {s : Growths} (h : s.Inv) {q : Pool} (hq : s.pool.Steady q) : (s.withPool q).Inv := by
  have hlosses : ∀ i, (s.withPool q).losses i = s.losses i := by
    intro i
    simp only [losses, withPool, hq.policy, hq.blockSize]
  have hidle : ∀ i, (s.withPool q).Idle i ↔ s.Idle i := by
    intro i
    simp only [Idle, withPool, hq.count, ← Option.not_isSome_iff_eq_none, hq.isSome_slot?]
  refine ⟨h.slots.steady hq, fun i hi => ?_, fun i hi => ?_⟩
  · rw [hlosses]
    exact h.losses_idle i ((hidle i).mp hi)
  · rw [hlosses]
    exact h.losses_not_idle i (mt (hidle i).mpr hi)

/-- Claiming the next slot keeps the invariant. -/
theorem Inv.start {s : Growths} (h : s.Inv) (hlt : s.pool.count < s.pool.maxArenas) : (s.start s.pool.count).Inv := by
  have hidle : ∀ i, (s.start s.pool.count).Idle i ↔ s.Idle i := by
    intro i
    rw [Idle, Growths.start, claimSlot_count]
    simp only [List.mem_cons, not_or]
    constructor
    · rintro ⟨h1, ⟨h2, h3⟩, h4⟩
      exact ⟨by omega, h3, h4⟩
    · rintro ⟨h1, h2, h3⟩
      exact ⟨by omega, ⟨by omega, h2⟩, h3⟩
  have hlosses : ∀ i, (s.start s.pool.count).losses i = s.losses i := by
    intro i
    rw [losses, Growths.start, claimSlot_count]
    rfl
  refine ⟨?_, fun i hi => ?_, fun i hi => ?_⟩
  · rw [Growths.start, claimSlot_count]
    exact h.slots.claim hlt
  · rw [hlosses]
    exact h.losses_idle i ((hidle i).mp hi)
  · rw [hlosses]
    exact h.losses_not_idle i (mt (hidle i).mpr hi)

/-- Filling a claimed slot keeps the invariant. -/
theorem Inv.store {s : Growths} (h : s.Inv) {i : Nat} (hi : i ∈ s.claimed) (r : Resident Arena) :
    (s.store i r).Inv := by
  have hcap := h.slots.held_lt_capacity hi
  have hidle : ∀ j, (s.store i r).Idle j ↔ s.Idle j := by
    intro j
    simp only [Idle, Growths.store, h.slots.mem_erase_iff, slot?_putSlot hcap]
    by_cases hj : j = i
    · subst hj
      simp [hi]
    · simp only [hj, if_false, ne_eq, not_false_eq_true, true_and]
      exact Iff.rfl
  exact ⟨h.slots.store hi r, fun j hj => h.losses_idle j ((hidle j).mp hj),
    fun j hj => h.losses_not_idle j (mt (hidle j).mpr hj)⟩

/-- A failed growth keeps the invariant: either the slot is not counted any more, or its loss is logged. -/
theorem Inv.fail {s : Growths} (h : s.Inv) {i : Nat} (hi : i ∈ s.claimed) : (s.fail i).Inv := by
  have halike := giveBack_alike s.pool i
  have hlt := h.slots.lt_count i hi
  have hbusy : ¬s.Idle i := fun hidle => hidle.2.1 hi
  have hlosses : ∀ j, (s.fail i).losses j = s.losses j + if i = j ∧ (s.pool.giveBack i).1 = false then 1 else 0 := by
    intro j
    simp only [losses, Growths.fail, halike.policy, halike.blockSize]
    exact count_snoc _ _ _ _ _ _
  have hidle : ∀ j, (s.fail i).Idle j ↔ s.Idle j ∨ (i = j ∧ (s.pool.giveBack i).1 = false) := by
    intro j
    simp only [Idle, Growths.fail, h.slots.mem_erase_iff, Pool.giveBack]
    by_cases hj : j = i
    · subst hj
      split
      · simp [hi]
      · simpa [hi, hlt] using h.slots.slot_held j hi
    · have hne : i ≠ j := fun e => hj e.symm
      split
      · simp only [hj, hne, ne_eq, not_false_eq_true, true_and, false_and, or_false]
        constructor
        · rintro ⟨h1, h2, h3⟩
          exact ⟨by omega, h2, h3⟩
        · rintro ⟨h1, h2, h3⟩
          exact ⟨by omega, h2, h3⟩
      · simp only [hj, hne, ne_eq, not_false_eq_true, true_and, false_and, or_false]
  refine ⟨h.slots.giveBack hi, fun j hj => ?_, fun j hj => ?_⟩
  · rw [hlosses]
    rcases (hidle j).mp hj with hj | ⟨rfl, hlost⟩
    · have hne : i ≠ j := fun e => hbusy (e ▸ hj)
      simp [hne, h.losses_idle j hj]
    · simp [hlost, h.losses_not_idle i hbusy]
  · obtain ⟨hj, hlost⟩ := not_or.mp (mt (hidle j).mpr hj)
    rw [hlosses, if_neg hlost, h.losses_not_idle j hj]

/-- **One step keeps the invariant.** -/
theorem Step.inv {s t : Growths} (hst : Step s t) (h : s.Inv) : t.Inv := by
  cases hst with
  | takeExisting n => exact h.steady (s.pool.takeExisting_steady n)
  | takeFrom i => exact h.steady (s.pool.takeFrom_steady i)
  | deallocate address => exact h.steady (s.pool.deallocate_steady address)
  | start hn hclaim =>
    obtain rfl := claimSlot_eq hclaim
    exact h.start hn
  | miss hmiss =>
    rw [claimSlot_of_false hmiss]
    exact h
  | store hi r => exact h.store hi r
  | adopt hi => exact h.steady (adopt_steady hi)
  | publish hi r =>
    have hcap := h.slots.held_lt_capacity hi
    exact (h.store hi r).steady (adopt_steady (by simp [Growths.store, hcap]))
  | fail hi => exact h.fail hi

/-- A step keeps the settings, and what was logged. -/
theorem Step.keeps {s t : Growths} (hst : Step s t) : s.pool.Alike t.pool ∧ s.log <+: t.log := by
  cases hst with
  | takeExisting n => exact ⟨(s.pool.takeExisting_steady n).toAlike, List.prefix_rfl⟩
  | takeFrom i => exact ⟨(s.pool.takeFrom_steady i).toAlike, List.prefix_rfl⟩
  | deallocate address => exact ⟨(s.pool.deallocate_steady address).toAlike, List.prefix_rfl⟩
  | start hn hclaim =>
    obtain rfl := claimSlot_eq hclaim
    rw [Growths.start, claimSlot_count]
    exact ⟨⟨rfl, rfl, rfl⟩, List.prefix_rfl⟩
  | miss hmiss =>
    rw [claimSlot_of_false hmiss]
    exact ⟨.refl _, List.prefix_rfl⟩
  | store hi r => exact ⟨⟨rfl, rfl, rfl⟩, List.prefix_rfl⟩
  | adopt hi => exact ⟨⟨rfl, rfl, rfl⟩, List.prefix_rfl⟩
  | publish hi r => exact ⟨⟨rfl, rfl, rfl⟩, List.prefix_rfl⟩
  | fail hi => exact ⟨giveBack_alike _ _, List.prefix_append _ _⟩

/-- **Any number of steps keeps the invariant.** -/
theorem Reaches.inv {s t : Growths} (hst : Reaches s t) (h : s.Inv) : t.Inv := by
  induction hst with
  | refl => exact h
  | tail _ hstep ih => exact hstep.inv ih

theorem Reaches.keeps {s t : Growths} (hst : Reaches s t) : s.pool.Alike t.pool ∧ s.log <+: t.log := by
  induction hst with
  | refl => exact ⟨.refl _, List.prefix_rfl⟩
  | tail _ hstep ih => exact ⟨ih.1.trans hstep.keeps.1, ih.2.trans hstep.keeps.2⟩

/-- A logged loss stays logged. -/
theorem Reaches.losses_le {s t : Growths} (hst : Reaches s t) (i : Nat) : s.losses i ≤ t.losses i := by
  obtain ⟨halike, hprefix⟩ := hst.keeps
  unfold losses
  rw [halike.policy, halike.blockSize]
  exact hprefix.sublist.count_le _

/-- A slot whose loss was logged stays empty for ever. -/
theorem Inv.slot_of_lost {s t : Growths} (h : s.Inv) {i : Nat} (hi : s.losses i = 1) (hst : Reaches s t) :
    t.pool.slot? i = none := by
  by_cases hidle : t.Idle i
  · exact hidle.2.2
  · have hle := hst.losses_le i
    have hzero := (hst.inv h).losses_not_idle i hidle
    omega

/-- The start: an empty pool, and no growth. -/
theorem inv_create {policy : Policy} {size n : Nat} {p : Pool} (h : create policy size n = .ok p) :
    Inv ⟨p, [], []⟩ := by
  obtain ⟨-, -, -, hcount, hcurrent, -⟩ := create_eq h
  refine ⟨.of_empty hcount hcurrent fun i => slot?_create h, fun i hi => ?_, fun i _ => rfl⟩
  have hlt : i < p.count := hi.1
  omega

/-! ## What the states that are reached look like -/

/-- There is an arena in the slot. -/
def Filled (s : Growths) (i : Nat) : Prop := (s.pool.slot? i).isSome = true

/-- Exactly one growth in progress has claimed the slot, and it is empty. -/
def Claimed (s : Growths) (i : Nat) : Prop := s.claimed.count i = 1 ∧ s.pool.slot? i = none

/-- It was logged exactly once that the slot could not be given back, and it is empty for ever. -/
def Lost (s : Growths) (i : Nat) : Prop := s.losses i = 1 ∧ ∀ t, Reaches s t → t.pool.slot? i = none

/-- The slots of a pool with a limit of `m` arenas are in order. The last four properties say that no arena is lost:
a growth stores into an empty slot, no other slot in use falls behind the count when a slot is given back, and the
scans for blocks and for owners see all arenas. -/
structure Orderly (s : Growths) (m : Nat) : Prop where
  maxArenas : s.pool.maxArenas = m
  count_le : s.pool.count ≤ m
  limit_le : m ≤ 16
  below : ∀ i, i < s.pool.count → (s.Filled i ∧ ¬s.Claimed i ∧ ¬s.Lost i) ∨ (¬s.Filled i ∧ s.Claimed i ∧ ¬s.Lost i) ∨
    (¬s.Filled i ∧ ¬s.Claimed i ∧ s.Lost i)
  above : ∀ i, s.pool.count ≤ i → s.pool.slot? i = none ∧ i ∉ s.claimed
  current : s.pool.current = 0 ∨ s.Filled s.pool.current
  store_empty : ∀ i ∈ s.claimed, s.pool.slot? i = none ∧ ∀ r, (s.pool.putSlot i (some r)).slot? i = some r
  giveBack_above : ∀ i ∈ s.claimed, ∀ j, j ≠ i → s.Filled j ∨ j ∈ s.claimed → j < (s.pool.giveBack i).2.count
  scan_blocks : (s.pool.takeExisting s.pool.count).1 = .ok none →
    ∀ i r, s.pool.slot? i = some r → r.value.allocate.1 = .ok none
  scan_owners : ∀ address i r, s.pool.slot? i = some r → r.value.owns address = true →
    (s.pool.owner? address).isSome = true

/-- A counted slot is in exactly one of three states. -/
theorem Inv.below {s : Growths} (h : s.Inv) {i : Nat} (hi : i < s.pool.count) :
    (s.Filled i ∧ ¬s.Claimed i ∧ ¬s.Lost i) ∨ (¬s.Filled i ∧ s.Claimed i ∧ ¬s.Lost i) ∨
      (¬s.Filled i ∧ ¬s.Claimed i ∧ s.Lost i) := by
  unfold Filled Claimed Lost
  cases hs : s.pool.slot? i with
  | some r =>
    refine .inl ⟨rfl, fun hc => (nomatch hc.2), fun hl => ?_⟩
    have := hl.2 s .refl
    rw [hs] at this
    cases this
  | none =>
    by_cases hmem : i ∈ s.claimed
    · refine .inr (.inl ⟨by simp, ⟨by rw [h.slots.nodup.count, if_pos hmem], rfl⟩, fun hl => ?_⟩)
      have hzero := h.losses_not_idle i fun hidle => hidle.2.1 hmem
      omega
    · have hone := h.losses_idle i ⟨hi, hmem, hs⟩
      refine .inr (.inr ⟨by simp, fun hc => ?_, hone, fun t => h.slot_of_lost hone⟩)
      rw [List.count_eq_zero_of_not_mem hmem] at hc
      cases hc.1

/-- Giving a slot back does not hide a slot in use. -/
theorem Inv.lt_count_giveBack {s : Growths} (h : s.Inv) {i j : Nat} (hi : i ∈ s.claimed) (hj : j ≠ i)
    (huse : s.Filled j ∨ j ∈ s.claimed) : j < (s.pool.giveBack i).2.count := by
  have hslots := h.slots.giveBack hi
  rcases huse with hfill | hmem
  · refine hslots.lt_of_isSome j ?_
    unfold Filled at hfill
    unfold Pool.giveBack
    split <;> exact hfill
  · exact hslots.lt_count j (h.slots.mem_erase_iff.mpr ⟨hj, hmem⟩)

theorem Inv.orderly {s : Growths} (h : s.Inv) : s.Orderly s.pool.maxArenas where
  maxArenas := rfl
  count_le := h.slots.count_le
  limit_le := s.pool.maxArenas_le
  below i hi := h.below hi
  above i hi := by
    refine ⟨?_, fun hmem => Nat.lt_irrefl _ (Nat.lt_of_lt_of_le (h.slots.lt_count i hmem) hi)⟩
    cases hs : s.pool.slot? i with
    | none => rfl
    | some r => exact absurd (h.slots.lt_of_isSome i (by rw [hs]; rfl)) (Nat.not_lt_of_le hi)
  current := h.slots.current
  store_empty i hi := ⟨h.slots.slot_held i hi, fun r => slot?_putSlot_self (h.slots.held_lt_capacity hi) _⟩
  giveBack_above i hi j hj huse := h.lt_count_giveBack hi hj huse
  scan_blocks hnone i r hr := allocate_of_takeExisting hnone (h.slots.lt_of_isSome i (by rw [hr]; rfl)) hr
  scan_owners address i r hr howns := owner?_isSome (h.slots.lt_of_isSome i (by rw [hr]; rfl)) hr howns

/-- **The slots stay in order**, whatever growths are started and finished, in whatever order, and whatever blocks are
taken and given back meanwhile. -/
theorem reaches_orderly {policy : Policy} {size m : Nat} {p : Pool} (hp : create policy size m = .ok p) {s : Growths}
    (h : Reaches ⟨p, [], []⟩ s) : s.Orderly m := by
  have hmax : s.pool.maxArenas = m := h.keeps.1.maxArenas.trans (create_eq hp).2.2.1
  rw [← hmax]
  exact (h.inv (inv_create hp)).orderly

/-- Two growths overlap: the first one fails too late to give its slot back, and then the second one succeeds. -/
theorem reaches_orderly_overlapping : ∃ p s, create .shared 64 3 = .ok p ∧ Reaches ⟨p, [], []⟩ s ∧
    s.pool.count = 2 ∧ s.losses 0 = 1 ∧ s.Filled 1 ∧ s.pool.current = 1 ∧ s.Orderly 3 := by
  obtain ⟨g, hg⟩ := Arena.Geometry.exists_ofBlockSize (show Size.isPowerOfTwo 64 = true by decide) (by decide)
  obtain ⟨a, -⟩ := Arena.create_spec .shared ⟨4096, Arena.regionBytes⟩ hg rfl (by decide)
  let p : Pool := ⟨.shared, 64, 3, by decide, Vector.replicate _ none, 0, 0⟩
  have h1 : Step ⟨p, [], []⟩ (start ⟨p, [], []⟩ 0) := .start _ (by decide) rfl
  have h2 : Step (start ⟨p, [], []⟩ 0) ((start ⟨p, [], []⟩ 0).start 1) := .start _ (by decide) rfl
  have h3 := Step.fail ((start ⟨p, [], []⟩ 0).start 1) (i := 0) (by decide)
  have h4 := Step.publish (((start ⟨p, [], []⟩ 0).start 1).fail 0) (i := 1) (by decide) ⟨a, ⟨0, 0⟩⟩
  have hreach := (((Relation.ReflTransGen.single h1).tail h2).tail h3).tail h4
  exact ⟨p, _, rfl, hreach, rfl, rfl, rfl, rfl, reaches_orderly rfl hreach⟩

end Growths

end BlockHeap.Pool
