import BlockHeap.Proofs.Checked.Call
import BlockHeap.Proofs.Pool.Guard
import BlockHeap.Typed.Allocator

/-!
# Requests for elements

An allocator looks at a request for elements before the registry does, and answers by itself when the bytes are too many
for an address range, when there are none, or when the alignment is more than that of pages, in this order; and the
registry answers at once when the bytes leave no room for the handle behind them (`Allocator.allocate_eq`). In all these
cases nothing happens. Otherwise the answer is a block, a refused mapping or an exhausted pool
(`Allocator.Admits.answer`). A deallocation does nothing for the null pointer, for no bytes and for too many bytes,
and in no other case (`Allocator.deallocate_eq`, `Allocator.deallocate_eq_self_iff`).

The product of a request is computed once more in checked arithmetic, as is all the rest of an allocation; nothing goes
wrong (`Allocator.allocate?_eq`).
-/

namespace BlockHeap

/-! ## Oversized blocks -/

namespace Call

variable {ε : Type} {P : Pact ε} {claimed : Nat → List Nat} {k size : Nat} {c : Call ε} {held : List Nat}

/-- Where there is room for the handle, the answer is a block or a refused mapping. -/
theorem OnCourse.mapOversized_answer (hx : OnCourse P claimed k (c, held)) (h : Oversized.footprint size < Size.limit) :
    (∃ x, (c.mapOversized size).1 = .ok x) ∨ ∃ n e, (c.mapOversized size).1 = .error (.error (.map n e)) := by
  rcases hx.map_spec (Oversized.footprint size) with ⟨m, c', hm, -⟩ | ⟨e, c', hm, -⟩
  · rw [mapOversized_granted h hm]
    exact .inl ⟨_, rfl⟩
  · rw [mapOversized_refused h hm]
    exact .inr ⟨_, _, rfl⟩

end Call

/-! ## Deallocations that succeed change something -/

theorem FreeMap.release_ne_self (m : FreeMap) (i : Nat) : m.release i ≠ (.ok (), m) := by
  intro h
  rcases Nat.lt_or_ge i m.blockCount with hi | hi
  · cases hfree : m.isFree i with
    | true =>
      rw [release_of_isFree hi hfree] at h
      cases h
    | false =>
      obtain ⟨n, hn, hfreed⟩ := release_freed hi hfree
      obtain rfl : m = n := congrArg Prod.snd (h.symm.trans hn)
      rw [(hfreed.isFree_iff i).mpr (.inl rfl)] at hfree
      cases hfree
  · rw [release_of_le hi] at h
    cases h

theorem Arena.deallocate_ne_self (a : Arena) (x : Nat) : a.deallocate x ≠ (.ok (), a) := by
  intro h
  unfold deallocate at h
  split at h
  · cases h
  · dsimp only at h
    split at h
    · cases h
    · have hanswer := congrArg (fun y : Except Fault Unit × Arena => y.1) h
      have hfree := congrArg (fun y : Except Fault Unit × Arena => y.2.free) h
      exact a.free.release_ne_self ((x - a.base) / a.blockSize) (Prod.ext hanswer hfree)

theorem Pool.deallocate_ne_self (p : Pool) (x : Nat) : p.deallocate x ≠ (.ok (), p) := by
  intro h
  unfold deallocate at h
  split at h
  · cases h
  · rename_i i _
    cases hs : p.slot? i with
    | none =>
      rw [onArena_none hs] at h
      cases h
    | some r =>
      rw [onArena_some hs] at h
      have hanswer := congrArg (fun y : Except Fault Unit × Pool => y.1) h
      have hput := congrArg (fun y : Except Fault Unit × Pool => y.2.slot? i) h
      have hcap : i < capacity := lt_capacity (by rw [hs]; rfl)
      dsimp only at hanswer hput
      rw [slot?_putSlot_self hcap, hs, Option.some.injEq] at hput
      exact r.value.deallocate_ne_self x (Prod.ext hanswer (congrArg Resident.value hput))

namespace Call

variable {ε : Type}

theorem deallocate_ne_self (c : Call ε) (k x : Nat) : c.deallocate k x ≠ (.ok (), c) := by
  intro h
  rw [deallocate, onPool_eq] at h
  have hanswer : ((c.heap.pool k).deallocate x).1 = .ok () := congrArg Prod.fst h
  have hheap : c.heap.setPool k ((c.heap.pool k).deallocate x).2 = c.heap :=
    congrArg (fun y : Except Fault Unit × Call ε => y.2.heap) h
  rcases Nat.lt_or_ge k c.heap.pools.size with hk | hk
  · have hpool := Heap.pool_setPool_self hk ((c.heap.pool k).deallocate x).2
    rw [hheap] at hpool
    exact (c.heap.pool k).deallocate_ne_self x (Prod.ext hanswer hpool.symm)
  · -- there is no such pool
    rw [Heap.pool_of_le hk] at hanswer
    cases hanswer

theorem unmapOversized_ne_self (c : Call ε) (x size : Nat) : c.unmapOversized x size ≠ (.ok (), c) := by
  intro h
  unfold unmapOversized at h
  split at h
  · cases h
  · split at h
    · split at h
      · -- the event tells
        have hevents := congrArg (fun y : Except Fault Unit × Call ε => y.2.events.size) h
        simp [unmap, log] at hevents
      · cases h
    · cases h

end Call

/-! ## Registries -/

namespace Registry

variable {ε : Type} {P : Pact ε} {claimed : Nat → List Nat} {c : Call ε} {bytes : Nat}

/-- A registry has a pool for all requests but those above the largest class. -/
theorem poolOf_eq_none_iff (r : Registry) : (Source.registry r).poolOf bytes = none ↔ SizeClass.greatest < bytes :=
  ⟨fun h => SizeClass.fitting_eq_unclassed_iff.mp (Source.unclassed_of_poolOf h),
    fun h => Source.poolOf_of_unclassed r (SizeClass.fitting_of_greatest_lt h)⟩

/-- **The answers of a registry** to a request for bytes that leave room for a handle, if they need one. -/
theorem allocate_answer (r : Registry) (hc : c.Fair P) (hr : c.heap.Regular claimed)
    (h : ¬(SizeClass.greatest < bytes ∧ Size.limit ≤ Oversized.footprint bytes)) :
    (∃ x, (r.allocate c bytes).1 = .ok x) ∨ (∃ n e, (r.allocate c bytes).1 = .error (.error (.map n e))) ∨
      ∃ size n, (r.allocate c bytes).1 = .error (.error (.poolExhausted size n)) := by
  rcases (Source.registry r).allocate_cases c bytes with ⟨k, -, halloc⟩ | ⟨hk, halloc⟩
  · rw [show r.allocate c bytes = c.allocate k from halloc]
    exact (hc.onCourse hr k).allocate_ends.answer
  · rw [show r.allocate c bytes = c.mapOversized bytes from halloc]
    have hroom : Oversized.footprint bytes < Size.limit :=
      Nat.lt_of_not_le fun hle => h ⟨(poolOf_eq_none_iff r).mp hk, hle⟩
    exact ((hc.onCourse hr 0).mapOversized_answer hroom).imp_right .inl

/-- A deallocation that succeeds changes something. -/
theorem deallocate_ne_self (r : Registry) (c : Call ε) (x bytes : Nat) : r.deallocate c x bytes ≠ (.ok (), c) := by
  rcases (Source.registry r).deallocate_cases c x bytes with ⟨k, -, hdealloc⟩ | ⟨-, hdealloc⟩
  · rw [show r.deallocate c x bytes = c.deallocate k x from hdealloc]
    exact c.deallocate_ne_self k x
  · rw [show r.deallocate c x bytes = c.unmapOversized x bytes from hdealloc]
    exact c.unmapOversized_ne_self x bytes

end Registry

/-! ## Elements -/

/-- The alignment is a power of two, and the size a multiple of it. -/
structure Element.Proper (e : Element) : Prop where
  align_pow : ∃ i, e.align = 2 ^ i
  align_dvd : e.align ∣ e.size

theorem Element.bytes?_of_lt_limit {e : Element} {n : Nat} (h : n * e.size < Size.limit) :
    e.bytes? n = .ok (n * e.size) := by
  rw [bytes?, Size.mul?_eq h]

theorem Element.bytes?_of_limit_le {e : Element} {n : Nat} (h : Size.limit ≤ n * e.size) :
    e.bytes? n = .error (.capacityOverflow n e.size) := by
  rw [bytes?, Size.mul?, if_neg (Nat.not_lt_of_le h)]

namespace Allocator

variable {ε : Type} {P : Pact ε} {claimed : Nat → List Nat} {a : Allocator} {c : Call ε} {n : Nat}

/-- **How a request for elements is answered**, in order of precedence: the bytes are too many; there are none; the
alignment cannot be had; there is no room for a handle, though one is needed; and otherwise as the registry answers. -/
theorem allocate_eq (a : Allocator) (c : Call ε) (n : Nat) : a.allocate c n =
    if Size.limit ≤ n * a.element.size then (.error (.error (.capacityOverflow n a.element.size)), c)
    else if n * a.element.size = 0 then (.ok (.dangling a.element.align), c)
    else if pageSize < a.element.align then (.error (.error (.unsupportedAlignment a.element.align pageSize)), c)
    else if SizeClass.greatest < n * a.element.size ∧ Size.limit ≤ Oversized.footprint (n * a.element.size) then
      (.error (.error (.capacityOverflow (n * a.element.size) 1)), c)
    else
      ((a.registry.allocate c (n * a.element.size)).1.map .block, (a.registry.allocate c (n * a.element.size)).2) := by
  by_cases hmany : Size.limit ≤ n * a.element.size
  · rw [if_pos hmany, allocate, Element.bytes?_of_limit_le hmany]
  rw [if_neg hmany, allocate, Element.bytes?_of_lt_limit (Nat.lt_of_not_le hmany)]
  generalize n * a.element.size = bytes
  by_cases hnone : bytes = 0
  · subst hnone
    rfl
  rw [if_neg hnone]
  by_cases halign : pageSize < a.element.align
  · rw [if_pos halign]
    simp only [halign, if_true]
  rw [if_neg halign]
  simp only [halign, if_false]
  by_cases hroom : SizeClass.greatest < bytes ∧ Size.limit ≤ Oversized.footprint bytes
  · have hroute : a.registry.allocate c bytes = c.mapOversized bytes := by
      have hpool := (Registry.poolOf_eq_none_iff a.registry).mpr hroom.1
      exact (Source.registry_allocate a.registry c bytes).trans (by rw [hpool])
    rw [if_pos hroom, hroute, c.mapOversized_of_limit_le hroom.2]
    rfl
  · rw [if_neg hroom]

/-- What is looked at before the registry finds nothing wrong. -/
structure Admits (a : Allocator) (n : Nat) : Prop where
  lt_limit : n * a.element.size < Size.limit
  ne_zero : n * a.element.size ≠ 0
  align_le : a.element.align ≤ pageSize
  room : ¬(SizeClass.greatest < n * a.element.size ∧ Size.limit ≤ Oversized.footprint (n * a.element.size))

/-- A request that the registry answers. -/
theorem Admits.allocate_eq (h : a.Admits n) (c : Call ε) : a.allocate c n =
    ((a.registry.allocate c (n * a.element.size)).1.map .block, (a.registry.allocate c (n * a.element.size)).2) := by
  rw [Allocator.allocate_eq, if_neg (Nat.not_le_of_lt h.lt_limit), if_neg h.ne_zero,
    if_neg (Nat.not_lt_of_le h.align_le), if_neg h.room]

/-- **The answers of the registry** are a block, a refused mapping and an exhausted pool. -/
theorem Admits.answer (h : a.Admits n) (hc : c.Fair P) (hr : c.heap.Regular claimed) :
    (∃ x, (a.allocate c n).1 = .ok (.block x)) ∨ (∃ size e, (a.allocate c n).1 = .error (.error (.map size e))) ∨
      ∃ size m, (a.allocate c n).1 = .error (.error (.poolExhausted size m)) := by
  rw [h.allocate_eq]
  rcases a.registry.allocate_answer hc hr h.room with ⟨x, hx⟩ | ⟨size, e, hx⟩ | ⟨size, m, hx⟩
  · exact .inl ⟨x, by rw [hx]; rfl⟩
  · exact .inr (.inl ⟨size, e, by rw [hx]; rfl⟩)
  · exact .inr (.inr ⟨size, m, by rw [hx]; rfl⟩)

/-- Only a request that the registry answers is answered with a block. -/
theorem admits_of_block {x : Nat} {c' : Call ε} (h : a.allocate c n = (.ok (.block x), c')) :
    a.Admits n ∧ a.registry.allocate c (n * a.element.size) = (.ok x, c') := by
  rw [Allocator.allocate_eq] at h
  split at h
  · cases h
  split at h
  · cases h
  split at h
  · cases h
  split at h
  · cases h
  rename_i h1 h2 h3 h4
  refine ⟨⟨Nat.lt_of_not_le h1, h2, Nat.le_of_not_lt h3, h4⟩, ?_⟩
  generalize a.registry.allocate c (n * a.element.size) = r at h ⊢
  obtain ⟨answer, c''⟩ := r
  cases answer with
  | error f => cases h
  | ok y =>
    cases h
    rfl

/-- Allocates memory for `n` elements. -/
def allocate? (a : Allocator) (c : Call ε) (n : Nat) : Option (Except Failure Pointer × Call ε) :=
  match Size.mul? n a.element.size with
  | none => some (.error (.error (.capacityOverflow n a.element.size)), c)
  | some 0 => some (.ok (.dangling a.element.align), c)
  | some bytes =>
    if pageSize < a.element.align then
      some (.error (.error (.unsupportedAlignment a.element.align pageSize)), c)
    else do
      let r ← a.registry.allocate? c bytes
      return (r.1.map .block, r.2)

/-- **A request for elements does not go wrong** in a regular heap, when others are lawful: no sum, no product and no
difference leaves the range of sizes unnoticed, and no access the range of what there is. -/
theorem allocate?_eq (a : Allocator) (hc : c.Fair P) (hr : c.heap.Regular claimed) (n : Nat) :
    a.allocate? c n = some (a.allocate c n) := by
  rw [allocate?, allocate, Element.bytes?]
  cases Size.mul? n a.element.size with
  | none => rfl
  | some bytes =>
    cases bytes with
    | zero => rfl
    | succ bytes =>
      simp only [a.registry.allocate?_eq hc hr]
      split <;> rfl

/-- **What a deallocation comes to**: nothing, or what the registry makes of it. -/
theorem deallocate_eq (a : Allocator) (c : Call ε) (x n : Nat) : a.deallocate c x n =
    if x = 0 ∨ n * a.element.size = 0 ∨ Size.limit ≤ n * a.element.size then (.ok (), c)
    else a.registry.deallocate c x (n * a.element.size) := by
  by_cases hmany : Size.limit ≤ n * a.element.size
  · rw [if_pos (.inr (.inr hmany)), deallocate, Element.bytes?_of_limit_le hmany]
  rw [deallocate, Element.bytes?_of_lt_limit (Nat.lt_of_not_le hmany)]
  simp only [hmany, or_false]
  generalize n * a.element.size = bytes
  cases bytes with
  | zero =>
    rw [if_pos (.inr rfl)]
    rfl
  | succ bytes => simp only [Nat.succ_ne_zero, or_false]

/-- **What is ignored**: the null pointer, no bytes and too many of them, and nothing else. -/
theorem deallocate_eq_self_iff (a : Allocator) (c : Call ε) (x n : Nat) : a.deallocate c x n = (.ok (), c) ↔
    x = 0 ∨ n * a.element.size = 0 ∨ Size.limit ≤ n * a.element.size := by
  rw [deallocate_eq]
  split
  · rename_i h
    exact iff_of_true rfl h
  · rename_i h
    exact iff_of_false (a.registry.deallocate_ne_self c x _) h

end Allocator

end BlockHeap
