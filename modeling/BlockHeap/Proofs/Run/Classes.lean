import BlockHeap.Proofs.Run.Separate

/-!
# The pools of a registry by block size

A registry looks the pool for blocks of a given size up by the number of the class. It has one for each pooled size and
none for any other (`Registry.poolNumber?_of_index`, `Registry.poolNumber?_of_not_pooled`), so the lookup never comes to
the assertions of `SizeClass.index`. A new registry has its pools in order of class, whatever pools were there before
(`Registry.pool_create`), and they keep their block sizes whatever is allocated and given back (`run_classes`).
-/

namespace BlockHeap

namespace Registry

variable {size i : Nat}

theorem poolNumber?_of_index (r : Registry) (h : SizeClass.index size = .ok i) :
    r.poolNumber? size = .ok (some (r.first + i)) := by
  obtain ⟨hself, hne⟩ := SizeClass.fitting_eq_self_iff.mpr (SizeClass.pooled_of_index h)
  have hi : i < SizeClass.count := (SizeClass.index_eq_ok_iff.mp h).1
  simp [poolNumber?, hself, hne, h, hi, bind, Except.bind, pure, Except.pure]

theorem poolNumber?_of_not_pooled (r : Registry) (h : ¬SizeClass.Pooled size) : r.poolNumber? size = .ok none := by
  have hself := mt SizeClass.fitting_eq_self_iff.mp h
  exact if_pos (by tauto)

/-- A size has a pool when it is a class for some request. -/
theorem pooled_iff_fitting : SizeClass.Pooled size ↔
    size ≠ SizeClass.unclassed ∧ ∃ bytes < Size.limit, SizeClass.fitting bytes = size := by
  constructor
  · intro h
    obtain ⟨hself, hne⟩ := SizeClass.fitting_eq_self_iff.mpr h
    exact ⟨hne, size, Nat.lt_of_le_of_lt h.2.2 (by decide), hself⟩
  · rintro ⟨hne, bytes, -, rfl⟩
    exact SizeClass.pooled_fitting (Nat.not_lt.mp fun h => hne (SizeClass.fitting_of_greatest_lt h))

/-- Making a registry where there are pools already. -/
theorem create_on (h : Heap) (policy : Policy) :
    create h policy = (.ok ⟨policy, h.pools.size⟩,
      h.addPools ((List.range SizeClass.count).map fun i => classPool policy (SizeClass.least * 2 ^ i))) := by
  rw [create, freshPools_eq]

/-- The pools of a new registry are in order of class. -/
theorem pool_create (h : Heap) (policy : Policy) (hi : i < SizeClass.count) :
    (create h policy).2.pool (h.pools.size + i) = classPool policy (SizeClass.least * 2 ^ i) := by
  rw [create_on]
  simp [Heap.addPools, Heap.pool, hi]

end Registry

section

open SizeClass

/-- **Rounding to the classes is a closure**, and a registry has a pool for each class. A size is rounded to the least
class that is no smaller, if there is one; the classes are numbered in their order; a new registry looks up a pool for
exactly the sizes to which others are rounded, and at each moment of each run this pool has blocks of that size. -/
theorem run_classes {h : Heap} (hh : h.Fresh) (policy : Policy) (ops : List Op) :
    (∀ size, greatest < size → fitting size = unclassed) ∧
    (∀ size ≤ greatest, Pooled (fitting size) ∧ (∀ c, Pooled c → (fitting size ≤ c ↔ size ≤ c)) ∧
      (∀ larger ≤ greatest, size ≤ larger → fitting size ≤ fitting larger) ∧
      fitting (fitting size) = fitting size ∧ ∃ i < count, index (fitting size) = .ok i) ∧
    (∀ c i, index c = .ok i ↔ ofIndex i = .ok c) ∧
    (∀ c, Pooled c ↔ ∃ i, index c = .ok i) ∧ (∀ i, i < count ↔ ∃ c, ofIndex i = .ok c) ∧
    (∀ c c' i i', index c = .ok i → index c' = .ok i' → (i < i' ↔ c < c')) ∧
    ∃ r, (Registry.create h policy).1 = .ok r ∧ ∀ x, ∃ found, r.poolNumber? x = .ok found ∧
      (found.isSome ↔ x ≠ unclassed ∧ ∃ size < Size.limit, fitting size = x) ∧
      ∀ k, found = some k → r.first ≤ k ∧ k < r.first + count ∧
        ∀ m ∈ (runAll (.registry r) ops (Process.start (Registry.create h policy).2)).moments,
          (m.heap.pool k).blockSize = x := by
  refine ⟨fun size => fitting_of_greatest_lt, fun size hsize => ⟨pooled_fitting hsize,
    fun c hc => fitting_le_iff hc hsize, fun larger hlarger hle => fitting_mono hle hlarger,
    fitting_of_pooled (pooled_fitting hsize), ?_⟩, fun c i => index_iff_ofIndex,
    fun c => ⟨exists_index, fun ⟨i, hi⟩ => pooled_of_index hi⟩, fun i => ?_, fun c c' i i' => index_lt_iff, ?_⟩
  · obtain ⟨i, hi, hindex, -⟩ := index_fitting (fitting_ne_unclassed hsize)
    exact ⟨i, hi, hindex⟩
  · simp only [ofIndex_eq_ok_iff, exists_and_left, exists_eq, and_true]
  · have hcreate := Registry.create_on h policy
    have hfresh : (Registry.create h policy).2.Fresh := by
      rw [hcreate]
      exact hh.addPools (Registry.classPools_built policy)
    refine ⟨⟨policy, h.pools.size⟩, by rw [hcreate], fun x => ?_⟩
    rw [← Registry.pooled_iff_fitting]
    by_cases hx : Pooled x
    · obtain ⟨i, hi⟩ := exists_index hx
      obtain ⟨hlt, hsize⟩ := index_eq_ok_iff.mp hi
      refine ⟨_, Registry.poolNumber?_of_index _ hi, iff_of_true rfl hx, fun k hk => ?_⟩
      obtain rfl : h.pools.size + i = k := Option.some.inj hk
      refine ⟨Nat.le_add_right _ _, Nat.add_lt_add_left hlt _, fun m hm => ?_⟩
      obtain ⟨claimed, pending, hfine⟩ := (hfresh.run_sound (.registry ⟨policy, h.pools.size⟩) ops).record.past m hm
      rw [(hfine.alike.pool _).blockSize, Registry.pool_create h policy hlt]
      exact hsize.symm
    · exact ⟨none, Registry.poolNumber?_of_not_pooled _ hx, iff_of_false (by simp) hx, fun k hk => by cases hk⟩

end

/-- A registry behind the pools of another one, used and unused sizes. -/
theorem run_classes_second : ∃ h r, h.Fresh ∧ h.pools.size = SizeClass.count ∧
    (Registry.create h .threadLocal).1 = .ok r ∧ r.poolNumber? 4096 = .ok (some 29) ∧ r.poolNumber? 24 = .ok none ∧
    ∀ m ∈ (runAll (.registry r) [.allocate 3000 [] [], .allocate 5 [] [], .deallocate 0 4000]
      (Process.start (Registry.create h .threadLocal).2)).moments, (m.heap.pool 29).blockSize = 4096 := by
  have hfresh := Registry.create_fresh Os.standard_sound .shared
  obtain ⟨-, -, -, -, -, -, r, hr, hlookup⟩ :=
    run_classes hfresh .threadLocal [.allocate 3000 [] [], .allocate 5 [] [], .deallocate 0 4000]
  have hfirst : r = ⟨.threadLocal, 20⟩ := by
    rw [Registry.create_on] at hr
    exact (Except.ok.inj hr).symm
  have hfound : r.poolNumber? 4096 = .ok (some 29) := by
    rw [hfirst]
    decide
  obtain ⟨found, hfound', -, hsize⟩ := hlookup 4096
  rw [hfound] at hfound'
  exact ⟨_, r, hfresh, by decide, hr, hfound, by rw [hfirst]; decide, (hsize 29 (Except.ok.inj hfound').symm).2.2⟩

end BlockHeap
