import BlockHeap.Proofs.Pool.Guard
import BlockHeap.Proofs.Run.Onward

/-!
# Wrong deallocations are caught

At each moment of a run in which only blocks in use are given back, somebody may try to give back any other address.
`Moment.Guards` says what comes of it: an address outside the blocks of a pool, inside a block but not at its start, or
of a block that was in use before and is not any more, is refused, and the whole heap stays as it is. Only a block in
use is taken back, and then nothing changes but its own bit and the mark of its region (`run_guards`).

That a block given back before is free now is known because its arena is still in its place, with the cursor where it
was or further on (`Process.Ordered`), while no block is in use there.
-/

namespace BlockHeap

namespace Heap

/-- Putting a pool where it is changes nothing. -/
theorem setPool_self (h : Heap) (k : Nat) : h.setPool k (h.pool k) = h := by
  rcases Nat.lt_or_ge k h.pools.size with hk | hk
  · have hget : h.pool k = h.pools[k] := by simp [pool, hk]
    rw [setPool, hget, Array.setIfInBounds_def, dif_pos hk, Array.set_getElem_self]
  · exact setPool_of_le hk _

end Heap

/-- What comes of giving address `x` back to pool `k` of a source at some time: `used` are the moments before it. The
call does nothing at all where it fails. -/
structure Moment.Guards {ε : Type} (src : Source) (k bytes x : Nat) (used : List Moment) (m : Moment) (c : Call ε) :
    Prop where
  /-- The address lies outside all arenas of the pool. -/
  outside : (∀ i r, (m.heap.pool k).slot? i = some r → ¬Pool.Within x r) →
    src.deallocate c x bytes = (.error .foreignToPool, c)
  /-- The address lies inside a block in use that is not from the pool. -/
  elsewhere : ∀ b ∈ m.live, b.pool ≠ some k → b.address ≤ x → x < (m.heap.span b).stop →
    src.deallocate c x bytes = (.error .foreignToPool, c)
  /-- The address lies inside a block of the pool, but not at its start. -/
  inside : ∀ i r, (m.heap.pool k).slot? i = some r → Pool.Within x r →
    (x - r.value.base) % r.value.blockSize ≠ 0 → src.deallocate c x bytes = (.error .offBoundary, c)
  /-- The address is that of a block of the pool that was in use and is not any more. -/
  again : (∃ m' ∈ used, ∃ b ∈ m'.live, b.pool = some k ∧ b.address = x) →
    (∀ b ∈ m.live, b.pool = some k → b.address ≠ x) → src.deallocate c x bytes = (.error .alreadyFree, c)
  /-- The address is that of a block of the pool in use: number `j` of the arena in slot `i`. -/
  inUse : ∀ b ∈ m.live, b.pool = some k → b.address = x → ∃ i r j n, (m.heap.pool k).slot? i = some r ∧
    j < r.value.blockCount ∧ x = r.value.address j ∧ r.value.free.isFree j = false ∧ r.value.free.Freed j n ∧
    src.deallocate c x bytes = (.ok (), { c with heap := m.heap.setPool k ((m.heap.pool k).withFree i r n) })

variable {ε : Type} {src : Source} {k bytes x : Nat} {h₀ : Heap} {m m' : Moment}
  {claimed claimed' claimed'' : Nat → List Nat} {pending pending' : Multiset Mapping}

/-- What a pool answers to an address is what the source does. -/
theorem Source.deallocate_alone {h : Heap} {q : Pool} {answer : Except Fault Unit} (hk : src.poolOf bytes = some k)
    (hq : (h.pool k).deallocate x = (answer, q)) (rest : ε) :
    src.deallocate (Call.alone h rest) x bytes = (answer, { Call.alone h rest with heap := h.setPool k q }) := by
  rw [deallocate_of_poolOf hk, Call.deallocate, Call.onPool_eq]
  simp only [Call.alone, hq]

/-- What a pool refuses leaves everything as it is. -/
theorem Source.deallocate_refused {h : Heap} {f : Fault} (hk : src.poolOf bytes = some k)
    (hq : (h.pool k).deallocate x = (.error f, h.pool k)) (rest : ε) :
    src.deallocate (Call.alone h rest) x bytes = (.error f, Call.alone h rest) := by
  rw [deallocate_alone hk hq, Heap.setPool_self]
  rfl

/-- **A block that was in use is free** when it is in use no more. -/
theorem Process.Fine.isFree_of_used (hf : Process.Fine src h₀ m.heap m.live claimed pending)
    (hf' : Process.Fine src h₀ m'.heap m'.live claimed' pending') (hregular : m'.heap.Regular claimed'')
    (honward : m'.heap.Onward m.heap) {b : Block} (hb : b ∈ m'.live) (hk : b.pool = some k)
    (hnot : ∀ b' ∈ m.live, b'.pool = some k → b'.address ≠ b.address) :
    ∃ i r j, (m.heap.pool k).slot? i = some r ∧ j < r.value.blockCount ∧ b.address = r.value.address j ∧
      r.value.free.isFree j = true := by
  obtain ⟨i, r, j, hi, hj, hjb⟩ := Pool.exists_of_held (hf'.heap.held_mem hb hk)
  obtain ⟨a, ha, hevolves⟩ := (honward k).arena i r hi
  have hlater := ((hregular.pools k).arenas i r hi).later hevolves
  obtain ⟨g, hg⟩ := (hf.heap.pools k).arena ha
  have hcursor : j < a.cursor := Nat.lt_of_lt_of_le (Arena.Sound.mem_taken.mp hj).1 hlater.cursor_le
  refine ⟨i, _, j, ha, Nat.lt_of_lt_of_le hcursor hg.cursor_le, ?_, ?_⟩
  · rw [← hjb]
    exact (hlater.address j).symm
  · -- a block that is not free would be held, and so in use
    by_contra hfree
    have htaken : j ∈ a.taken := Arena.Sound.mem_taken.mpr ⟨hcursor, fun hmem => hfree (FreeMap.mem_freeSet.mp hmem)⟩
    have hheld : b.address ∈ (m.heap.pool k).held := by
      rw [← hjb, ← hlater.address j]
      exact Multiset.mem_bind.mpr ⟨_, Pool.mem_arenas.mpr ⟨i, ha⟩, Arena.Sound.mem_held.mpr ⟨j, htaken, rfl⟩⟩
    rw [← hf.heap.held k] at hheld
    obtain ⟨b', hb', haddress⟩ := Multiset.mem_map.mp hheld
    obtain ⟨hmem, hpool⟩ := Multiset.mem_filter.mp hb'
    exact hnot b' hmem hpool haddress

/-- A pool takes back a block in use that is from it. -/
theorem Process.Fine.pool_deallocate (hf : Process.Fine src h₀ m.heap m.live claimed pending) {b : Block}
    (hb : b ∈ m.live) (hpool : b.pool = some k) :
    ∃ i r j n, (m.heap.pool k).slot? i = some r ∧ j < r.value.blockCount ∧ b.address = r.value.address j ∧
      r.value.free.isFree j = false ∧ r.value.free.Freed j n ∧
      (m.heap.pool k).deallocate b.address = (.ok (), (m.heap.pool k).withFree i r n) := by
  obtain ⟨i, r, j, hi, hj, hjb⟩ := Pool.exists_of_held (hf.heap.held_mem hb hpool)
  obtain ⟨g, hg⟩ := (hf.heap.pools k).arena hi
  obtain ⟨n, hn, hfree, hfreed⟩ := (hf.heap.pools k).deallocate_taken (hf.heap.apart_pool k) hi hj
  rw [hjb] at hn
  exact ⟨i, r, j, n, hi, hg.lt_blockCount hj, hjb.symm, hfree, hfreed, hn⟩

/-- Giving back a block in use. -/
theorem Process.Fine.deallocate_inUse (hf : Process.Fine src h₀ m.heap m.live claimed pending)
    (hk : src.poolOf bytes = some k) {b : Block} (hb : b ∈ m.live) (hpool : b.pool = some k) (rest : ε) :
    ∃ i r j n, (m.heap.pool k).slot? i = some r ∧ j < r.value.blockCount ∧ b.address = r.value.address j ∧
      r.value.free.isFree j = false ∧ r.value.free.Freed j n ∧ src.deallocate (Call.alone m.heap rest) b.address bytes =
        (.ok (), { Call.alone m.heap rest with heap := m.heap.setPool k ((m.heap.pool k).withFree i r n) }) := by
  obtain ⟨i, r, j, n, hi, hj, hjb, hfree, hfreed, hn⟩ := hf.pool_deallocate hb hpool
  exact ⟨i, r, j, n, hi, hj, hjb, hfree, hfreed, Source.deallocate_alone hk hn rest⟩

/-- A block in use that is not from a pool lies outside the pool's arenas. -/
theorem Process.Fine.outside_of_ne (hf : Process.Fine src h₀ m.heap m.live claimed pending) {b : Block}
    (hb : b ∈ m.live) (hpool : b.pool ≠ some k) (h1 : b.address ≤ x) (h2 : x < (m.heap.span b).stop) :
    ∀ i r, (m.heap.pool k).slot? i = some r → ¬Pool.Within x r := by
  rintro i r hi ⟨h3, h4⟩
  obtain ⟨g, hg⟩ := (hf.heap.pools k).arena hi
  have hdisjoint := (hf.heap.disjoint_region hb hi).resolve_left fun hmem => hpool hmem.1
  have hstop : r.value.base + r.value.usable ≤ r.value.region.stop := Nat.add_le_add_left hg.usable_le _
  have hstart : (m.heap.span b).start = b.address := rfl
  have hbase : r.value.base = r.value.region.start := rfl
  unfold Mapping.Disjoint at hdisjoint
  omega

/-- **Wrong deallocations are caught**, at each moment of each run from a fresh heap. -/
theorem run_guards (h' : h₀.Fresh) (hk : src.poolOf bytes = some k) {ops : List Op} {used later : List Moment}
    (hm : (runAll src ops (Process.start h₀)).moments = used ++ m :: later) (x : Nat) (rest : ε) :
    m.Guards src k bytes x used (Call.alone m.heap rest) := by
  have hpast : (runAll src ops (Process.start h₀)).record.2.past = used ++ m :: later := hm
  have hsound := (h'.run_sound src ops).record.past
  have hregular := (h'.run_ordered src ops).regular
  have honward := (h'.run_ordered src ops).pairwise
  rw [hpast] at hsound hregular honward
  obtain ⟨claimed, pending, hf⟩ := hsound m (by simp)
  have hpool := hf.heap.pools k
  have hapart := hf.heap.apart_pool k
  refine ⟨fun hx => ?_, fun b hb hne h1 h2 => ?_, fun i r hi hx hoff => ?_, ?_, ?_⟩
  · exact Source.deallocate_refused hk (hpool.deallocate_outside hx) rest
  · exact Source.deallocate_refused hk (hpool.deallocate_outside (hf.outside_of_ne hb hne h1 h2)) rest
  · exact Source.deallocate_refused hk (hpool.deallocate_offBoundary hapart hi hx hoff) rest
  · rintro ⟨m', hm', b, hb, hbk, rfl⟩ hnot
    have hmem : m' ∈ used ++ m :: later := List.mem_append_left _ hm'
    obtain ⟨claimed', pending', hf'⟩ := hsound m' hmem
    obtain ⟨claimed'', hregular'⟩ := hregular m' hmem
    have honward' := (List.pairwise_append.mp honward).2.2 m' hm' m List.mem_cons_self
    obtain ⟨i, r, j, hi, hj, hjb, hfree⟩ := hf.isFree_of_used hf' hregular' honward' hb hbk hnot
    rw [hjb]
    exact Source.deallocate_refused hk (hpool.deallocate_free hapart hi hj hfree) rest
  · rintro b hb hbk rfl
    exact hf.deallocate_inUse hk hb hbk rest

/-- A block is allocated and given back. -/
def returnedRun : List Op := [.allocate SizeClass.greatest [] [], .deallocate 0 SizeClass.greatest]

/-- Giving the block of `returnedRun` back once more is refused. -/
theorem run_guards_returned : (Registry.startHeap .standard .shared).Fresh ∧
    (Source.registry ⟨.shared, 0⟩).poolOf SizeClass.greatest = some 19 ∧
    ∃ used m later, (runAll (.registry ⟨.shared, 0⟩) returnedRun
        (Process.start (Registry.startHeap .standard .shared))).moments = used ++ m :: later ∧
      m.Guards (.registry ⟨.shared, 0⟩) 19 SizeClass.greatest Os.spacing used (Call.alone m.heap ()) ∧
      (Source.registry ⟨.shared, 0⟩).deallocate (Call.alone m.heap ()) Os.spacing SizeClass.greatest =
        (.error .alreadyFree, Call.alone m.heap ()) := by
  have hfresh := Registry.create_fresh Os.standard_sound .shared
  have hk : (Source.registry ⟨.shared, 0⟩).poolOf SizeClass.greatest = some 19 := by decide
  generalize hms : (runAll (.registry ⟨.shared, 0⟩) returnedRun
    (Process.start (Registry.startHeap .standard .shared))).moments = ms
  have hlive : ms.map (·.live) = [[⟨some 19, Os.spacing, SizeClass.greatest⟩], [], []] := by
    rw [← hms]
    decide +kernel
  match ms, hlive with
  | [m1, m2, m3], hlive =>
    simp only [List.map_cons, List.map_nil, List.cons.injEq] at hlive
    have hguards : m2.Guards (.registry ⟨.shared, 0⟩) 19 SizeClass.greatest Os.spacing [m1] (Call.alone m2.heap ()) :=
      run_guards hfresh hk hms Os.spacing ()
    refine ⟨hfresh, hk, [m1], m2, [m3], rfl, hguards, hguards.again ⟨m1, List.mem_cons_self, ?_⟩ ?_⟩
    · rw [hlive.1]
      exact ⟨_, List.mem_cons_self, rfl, rfl⟩
    · rw [hlive.2.1]
      exact fun _ hb => nomatch hb

end BlockHeap
