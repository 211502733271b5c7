import BlockHeap.Proofs.Pool.Guard

/-!
# Giving blocks back in any order

Giving blocks back changes the free maps of arenas and nothing else (`Returning`). A free map of a sound arena is known
from the blocks that are taken, and these are known from the addresses that the pool holds; so two pools that have come
from one and the same by giving blocks back are equal as soon as they hold the same blocks (`Returning.eq_of_held`). The
order in which the blocks were given back leaves no trace in them (`Sound.deallocateAll_perm`), and neither does it
matter whether the next block at the cursor of the current arena was handed out before or after
(`Sound.deallocate_advance`).
-/

namespace BlockHeap

/-- The free map of a sound arena is known from the blocks that are taken. -/
theorem Arena.Sound.eq_of_taken {a b : Arena} {g g' : Arena.Geometry} (ha : a.Sound g) (hb : b.Sound g')
    (h : a.free.Alike b.free) (hsearches : b.free.searches = a.free.searches) (hcursor : b.cursor = a.cursor)
    (htaken : b.taken = a.taken) : b.free = a.free := by
  have hfree {c : Arena} {g : Arena.Geometry} (hc : c.Sound g) (i : Nat) :
      i ∈ c.free.freeSet ↔ i < c.cursor ∧ i ∉ c.taken := by
    rw [Arena.Sound.mem_taken]
    exact ⟨fun hi => ⟨hc.lt_cursor i hi, fun hnot => hnot.2 hi⟩, fun ⟨hlt, hnot⟩ => by_contra fun hi => hnot ⟨hlt, hi⟩⟩
  refine ha.exact.eq_of_freeSet hb.exact h hsearches ?_
  ext i
  rw [hfree hb, hfree ha, hcursor, htaken]

namespace Pool

variable {p q q' r : Pool} {claimed claimed' : List Nat} {i j x : Nat} {s : Resident Arena}

/-! ## Giving back changes free maps only -/

/-- The second pool is the first one with other free maps in its arenas. -/
structure Returning (p q : Pool) : Prop extends Alike p q where
  count : q.count = p.count
  current : q.current = p.current
  empty : ∀ i, p.slot? i = none → q.slot? i = none
  arena : ∀ i s, p.slot? i = some s → ∃ n, q.slot? i = some { s with value := { s.value with free := n } } ∧
    s.value.free.Alike n ∧ n.searches = s.value.free.searches

theorem Returning.refl (p : Pool) : p.Returning p :=
  ⟨.refl p, rfl, rfl, fun _ h => h, fun _ s hs => ⟨s.value.free, hs, ⟨rfl, rfl⟩, rfl⟩⟩

theorem Returning.trans (h : p.Returning q) (h' : q.Returning r) : p.Returning r := by
  refine ⟨h.toAlike.trans h'.toAlike, h'.count.trans h.count, h'.current.trans h.current,
    fun i hi => h'.empty i (h.empty i hi), fun i s hs => ?_⟩
  obtain ⟨m, hm, halike, hsearches⟩ := h.arena i s hs
  obtain ⟨n, hn, halike', hsearches'⟩ := h'.arena i _ hm
  exact ⟨n, hn, halike.trans halike', hsearches'.trans hsearches⟩

/-- Another free map in one arena. -/
theorem withFree_returning (hi : p.slot? i = some s) {m : FreeMap} (halike : s.value.free.Alike m)
    (hsearches : m.searches = s.value.free.searches) : p.Returning (p.withFree i s m) := by
  have hcap : i < capacity := lt_capacity (by rw [hi]; rfl)
  refine ⟨⟨rfl, rfl, rfl⟩, rfl, rfl, fun j hj => ?_, fun j t ht => ?_⟩
  · have hne : j ≠ i := by
      rintro rfl
      rw [hi] at hj
      cases hj
    rw [withFree, slot?_putSlot_of_ne hne, hj]
  · by_cases hij : j = i
    · subst hij
      obtain rfl : s = t := Option.some.inj (hi.symm.trans ht)
      exact ⟨m, slot?_putSlot_self hcap _, halike, hsearches⟩
    · exact ⟨t.value.free, (slot?_putSlot_of_ne hij _).trans ht, ⟨rfl, rfl⟩, rfl⟩

/-- A block is taken when its address is held. -/
theorem Sound.mem_taken_iff (h : p.Sound claimed) (hapart : Mapping.Apart p.mappings) (hi : p.slot? i = some s)
    (hj : j < s.value.blockCount) : j ∈ s.value.taken ↔ s.value.address j ∈ p.held := by
  constructor
  · intro htaken
    exact Multiset.mem_bind.mpr ⟨s, mem_arenas.mpr ⟨i, hi⟩, Arena.Sound.mem_held.mpr ⟨j, htaken, rfl⟩⟩
  · intro hheld
    obtain ⟨i', s', j', hi', hj', haddress⟩ := exists_of_held hheld
    obtain ⟨g, hg⟩ := h.arena hi
    have howner := h.owner?_eq hapart hi' hj'
    rw [haddress, h.owner?_of_owns hapart hi (hg.owns_address hj)] at howner
    obtain rfl : i = i' := Option.some.inj howner
    obtain rfl : s = s' := Option.some.inj (hi.symm.trans hi')
    rwa [← hg.address_injective haddress]

/-- **What is held says all.** -/
theorem Returning.eq_of_held (h : p.Returning q) (h' : p.Returning q') (hq : q.Sound claimed)
    (hq' : q'.Sound claimed') (hapart : Mapping.Apart q.mappings) (hapart' : Mapping.Apart q'.mappings)
    (hheld : q'.held = q.held) : q' = q := by
  refine ext_slots (h.toAlike.symm.trans h'.toAlike) (h'.count.trans h.count.symm) (h'.current.trans h.current.symm)
    fun i => ?_
  cases hi : p.slot? i with
  | none => rw [h.empty i hi, h'.empty i hi]
  | some s =>
    obtain ⟨n, hn, halike, hsearches⟩ := h.arena i s hi
    obtain ⟨n', hn', halike', hsearches'⟩ := h'.arena i s hi
    obtain ⟨g, hg⟩ := hq.arena hn
    obtain ⟨g', hg'⟩ := hq'.arena hn'
    have hcount : n'.blockCount = n.blockCount := halike'.blockCount.trans halike.blockCount.symm
    -- the blocks have the same addresses in both
    have htaken : ({ s.value with free := n' } : Arena).taken = ({ s.value with free := n } : Arena).taken := by
      ext l
      by_cases hl : l < n.blockCount
      · rw [hq.mem_taken_iff hapart hn hl, hq'.mem_taken_iff hapart' hn' (Nat.lt_of_lt_of_eq hl hcount.symm), hheld]
        rfl
      · exact iff_of_false (fun hmem => hl (hcount ▸ hg'.lt_blockCount hmem)) fun hmem => hl (hg.lt_blockCount hmem)
    have heq : n' = n := hg.eq_of_taken hg' ⟨halike'.shape.trans halike.shape.symm, hcount⟩
      (hsearches'.trans hsearches.symm) rfl htaken
    rw [hn, hn', heq]

/-! ## Giving back several blocks -/

/-- Gives blocks back one after the other. -/
def deallocateAll (p : Pool) : List Nat → List (Except Fault Unit) × Pool
  | [] => ([], p)
  | x :: xs =>
    let r := p.deallocate x
    let rest := r.2.deallocateAll xs
    (r.1 :: rest.1, rest.2)

/-- Giving back a block that is held. -/
theorem Sound.deallocate_returning (h : p.Sound claimed) (hapart : Mapping.Apart p.mappings) (hx : x ∈ p.held) :
    ∃ q, p.deallocate x = (.ok (), q) ∧ q.Sound claimed ∧ Mapping.Apart q.mappings ∧ p.Returning q ∧
      p.held = x ::ₘ q.held := by
  obtain ⟨q, h1, h2, h3, h4⟩ := h.deallocate_spec hapart hx
  obtain ⟨i, s, j, hi, hj, rfl⟩ := exists_of_held hx
  obtain ⟨m, hm, -, hfreed⟩ := h.deallocate_taken hapart hi hj
  obtain rfl : p.withFree i s m = q := congrArg Prod.snd (hm.symm.trans h1)
  exact ⟨_, h1, h2, h3.mappings.symm ▸ hapart, withFree_returning hi hfreed.toAlike hfreed.searches, h4⟩

/-- **Giving back blocks that are held**, each of them once. -/
theorem Sound.deallocateAll_returning (xs : List Nat) : ∀ {p : Pool}, p.Sound claimed → Mapping.Apart p.mappings →
    (xs : Multiset Nat) ≤ p.held → ∃ q, p.deallocateAll xs = (List.replicate xs.length (.ok ()), q) ∧
      q.Sound claimed ∧ Mapping.Apart q.mappings ∧ p.Returning q ∧ p.held = xs + q.held := by
  induction xs with
  | nil => exact fun h hapart _ => ⟨_, rfl, h, hapart, .refl _, (zero_add _).symm⟩
  | cons x xs ih =>
    intro p h hapart hle
    rw [← Multiset.cons_coe] at hle
    have hx : x ∈ p.held := Multiset.mem_of_le hle (Multiset.mem_cons_self x _)
    obtain ⟨q, h1, h2, h3, h4, h5⟩ := h.deallocate_returning hapart hx
    rw [h5, Multiset.cons_le_cons_iff] at hle
    obtain ⟨r, k1, k2, k3, k4, k5⟩ := ih h2 h3 hle
    refine ⟨r, ?_, k2, k3, h4.trans k4, ?_⟩
    · simp only [deallocateAll, h1, k1, List.length_cons, List.replicate_succ]
    · rw [h5, k5, ← Multiset.cons_coe, Multiset.cons_add]

/-- **The order does not matter** in which blocks are given back. -/
theorem Sound.deallocateAll_perm (h : p.Sound claimed) (hapart : Mapping.Apart p.mappings) {xs ys : List Nat}
    (hle : (xs : Multiset Nat) ≤ p.held) (hperm : xs.Perm ys) : p.deallocateAll xs = p.deallocateAll ys := by
  have hcoe : (xs : Multiset Nat) = ys := Multiset.coe_eq_coe.mpr hperm
  obtain ⟨q, h1, h2, h3, h4, h5⟩ := h.deallocateAll_returning xs hapart hle
  obtain ⟨q', k1, k2, k3, k4, k5⟩ := h.deallocateAll_returning ys hapart (hcoe ▸ hle)
  have hheld : q'.held = q.held := by
    rw [h5, hcoe] at k5
    exact (add_left_cancel k5).symm
  rw [h1, k1, h4.eq_of_held k4 h2 k2 h3 k3 hheld, hperm.length_eq]

/-! ## Giving back and taking the next block at the cursor -/

/-- The pool with the cursor of the arena `s` in slot `i` one block further. -/
def advance (p : Pool) (i : Nat) (s : Resident Arena) : Pool :=
  p.putSlot i (some { s with value := s.value.advanced })

/-- The current arena hands out the block at its cursor. -/
theorem Sound.takeExisting_bump (h : p.Sound claimed) (hcurrent : p.current = i) (hi : p.slot? i = some s)
    (hbump : s.value.bump < s.value.usable) (n : Nat) :
    p.takeExisting n = (.ok (some (s.value.base + s.value.bump)), p.advance i s) ∧
      (p.advance i s).Sound claimed ∧ p.Kept (p.advance i s) ∧
      (p.advance i s).held = (s.value.base + s.value.bump) ::ₘ p.held := by
  obtain ⟨g, hg⟩ := h.arena hi
  have hcursor := hg.bump_lt_iff.mp hbump
  have haddress : s.value.address s.value.cursor = s.value.base + s.value.bump := by
    rw [Arena.address, ← hg.bump_eq]
  obtain ⟨hsound, htaken⟩ := hg.advance hcursor
  obtain ⟨h1, h2, rest, h3, h4⟩ := h.replace hi hsound (Arena.Sound.alike_advanced s.value)
  have hnot : s.value.cursor ∉ s.value.taken := fun hmem => Nat.lt_irrefl _ (Arena.Sound.mem_taken.mp hmem).1
  refine ⟨?_, h1, h2, ?_⟩
  · rw [takeExisting, hcurrent, takeFrom_some hi, hg.allocate_of_cursor_lt hcursor, haddress]
    rfl
  · rw [advance, h4, (Arena.Sound.alike_advanced s.value).held_insert hnot htaken, Multiset.cons_add, ← h3, haddress]

/-- Other free maps before or after the cursor goes on. -/
theorem Returning.advance (h : p.Returning q) (hi : p.slot? i = some s) {m : FreeMap}
    (hm : q.slot? i = some { s with value := { s.value with free := m } }) :
    (p.advance i s).Returning (q.advance i { s with value := { s.value with free := m } }) := by
  have hcap : i < capacity := lt_capacity (by rw [hi]; rfl)
  refine ⟨⟨h.policy, h.blockSize, h.maxArenas⟩, h.count, h.current, fun j hj => ?_, fun j t ht => ?_⟩
  · have hne : j ≠ i := by
      rintro rfl
      rw [Pool.advance, slot?_putSlot_self hcap] at hj
      cases hj
    rw [Pool.advance, slot?_putSlot_of_ne hne] at hj ⊢
    exact h.empty j hj
  · by_cases hij : j = i
    · subst hij
      obtain ⟨n, hn, halike, hsearches⟩ := h.arena j s hi
      rw [Pool.advance, slot?_putSlot_self hcap] at ht ⊢
      cases ht
      cases hm.symm.trans hn
      exact ⟨m, rfl, halike, hsearches⟩
    · rw [Pool.advance, slot?_putSlot_of_ne hij] at ht ⊢
      exact h.arena j t ht

/-- **Giving back commutes** with handing out the block at the cursor of the current arena. -/
theorem Sound.deallocate_advance (h : p.Sound claimed) (hapart : Mapping.Apart p.mappings) (hx : x ∈ p.held)
    (hcurrent : p.current = i) (hi : p.slot? i = some s) (hbump : s.value.bump < s.value.usable) (n : Nat) :
    ∃ q q' r, p.deallocate x = (.ok (), q) ∧ q.takeExisting n = (.ok (some (s.value.base + s.value.bump)), r) ∧
      p.takeExisting n = (.ok (some (s.value.base + s.value.bump)), q') ∧ q'.deallocate x = (.ok (), r) := by
  obtain ⟨q, h1, h2, h3, h4, h5⟩ := h.deallocate_returning hapart hx
  obtain ⟨m, hm, -⟩ := h4.arena i s hi
  obtain ⟨k1, k2, k3, k4⟩ := h2.takeExisting_bump (h4.current.trans hcurrent) hm hbump n
  obtain ⟨l1, l2, l3, l4⟩ := h.takeExisting_bump hcurrent hi hbump n
  obtain ⟨r, r1, r2, r3, r4, r5⟩ :=
    l2.deallocate_returning (l3.mappings.symm ▸ hapart) (l4 ▸ Multiset.mem_cons_of_mem hx)
  -- both ways the same blocks are held in the end
  have hheld : (q.advance i { s with value := { s.value with free := m } }).held = r.held := by
    rw [l4, h5, Multiset.cons_swap] at r5
    exact k4.trans ((Multiset.cons_inj_right x).mp r5)
  have heq := r4.eq_of_held (h4.advance hi hm) r2 k2 r3 (k3.mappings.symm ▸ h3) hheld
  exact ⟨q, _, r, h1, heq ▸ k1, l1, r1⟩

end Pool

end BlockHeap
