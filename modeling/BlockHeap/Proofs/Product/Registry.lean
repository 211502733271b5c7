import BlockHeap.Proofs.Product.Runs
import BlockHeap.Proofs.Run.Separate

/-!
# A registry is the product of independent pools

Each pool of a registry goes through the same states, and gives the same answers with the same events, as a pool alone
in a heap that is given the requests of its class only and whose operating system, a sound one, is told the answers to
its requests for mappings (`run_product`). Requests without a class change no pool, and a block may be given back as one
of any number of bytes of its class.
-/

namespace BlockHeap

/-! ## Routes -/

/-- **The pool with a given number serves one class.** -/
theorem Source.poolOf_eq_some_iff (r : Registry) (bytes i : Nat) :
    (registry r).poolOf bytes = some (r.first + i) ↔ SizeClass.fitting bytes = SizeClass.least * 2 ^ i := by
  have hleast : SizeClass.least = 2 ^ 3 := rfl
  by_cases hclass : SizeClass.fitting bytes = SizeClass.unclassed
  · have hpos : 0 < 2 ^ 3 * 2 ^ i := Nat.mul_pos (by decide) (Nat.two_pow_pos i)
    rw [poolOf_of_unclassed r hclass, hclass, hleast]
    exact ⟨fun h => (nomatch h), fun h => absurd h (Nat.ne_of_lt hpos)⟩
  · obtain ⟨j, -, hroute, heq, -⟩ := route_of_class r hclass
    rw [route_eq] at hroute
    rw [Except.ok.inj hroute, heq, hleast]
    constructor
    · intro h
      obtain rfl : j = i := by simpa using h
      rfl
    · intro h
      obtain rfl : j = i := Nat.pow_right_injective (Nat.le_refl 2) (Nat.eq_of_mul_eq_mul_left (by decide) h)
      rfl

/-! ## Requests without a class -/

/-- A request for a mapping of its own leaves the pools as others leave them meanwhile. -/
theorem Call.pools_mapOversized {ε : Type} (c : Call ε) (bytes : Nat) :
    (c.mapOversized bytes).2.heap.pools = c.heap.pools ∨
      (c.mapOversized bytes).2.heap.pools =
        ((c.decisions.headD .grant).meanwhile (c.heap, c.rest)).1.pools := by
  rw [Call.mapOversized]
  split
  · rename_i offset total _ _
    right
    generalize hs : (c.decisions.headD .grant).meanwhile (c.heap, c.rest) = s
    cases hos : s.1.os.map total (c.decisions.headD .grant).refuse with
    | mk x os =>
      rw [map_of_answer hs hos]
      cases x <;> rfl
  · exact .inl rfl

/-- **A request without a class** changes no pool: the pools are as they were, or as others have left them by the time
that the operating system answers. -/
theorem Op.pools_trace_of_unclassed (r : Registry) {bytes : Nat} (h : SizeClass.fitting bytes = SizeClass.unclassed)
    (meanwhile : List Op) (refuse : Bool) (maps : List Answer) (grown : List (List Op)) (s : Chronicle) :
    (Op.trace (.registry r) (.allocate bytes (.mk meanwhile refuse :: maps) grown) s).1.pools = s.1.pools ∨
      (Op.trace (.registry r) (.allocate bytes (.mk meanwhile refuse :: maps) grown) s).1.pools =
        (traceAll (.registry r) meanwhile (s.note none (.ask bytes))).1.pools := by
  have hpools : ∀ x : Except Failure Nat × Call Journal,
      (Chronicle.settle (.registry r) bytes x).1.pools = x.2.heap.pools := by
    rintro ⟨x, c⟩
    cases x <;> rfl
  have hnone := Source.poolOf_of_unclassed r h
  rw [Op.trace, hpools, Source.registry_allocate, hnone, tracedDecisions, Answer.traced]
  exact Call.pools_mapOversized _ bytes

/-- Giving back a block without a class changes no pool. -/
theorem Chronicle.pools_giveBack_of_unclassed (r : Registry) {bytes : Nat}
    (h : SizeClass.fitting bytes = SizeClass.unclassed) (s : Chronicle) (i : Nat) :
    (s.giveBack (.registry r) i bytes).1.pools = s.1.pools := by
  have hnone := Source.poolOf_of_unclassed r h
  unfold Chronicle.giveBack
  split
  · rfl
  · rename_i b _
    split
    · rw [Source.registry_deallocate, hnone]
      have hpools := Source.pools_unmapOversized (Call.alone s.1 s.2) b.address bytes
      dsimp only [Chronicle.note]
      split
      · exact hpools
      · exact hpools
    · rfl

/-! ## Registries -/

theorem Registry.pool_startHeap (os : Os) (policy : Policy) {i : Nat} (hi : i < SizeClass.count) :
    (startHeap os policy).pool i = classPool policy (SizeClass.least * 2 ^ i) := by
  simp [startHeap, Heap.addPools, Heap.onOs, Heap.pool, hi]

/-- **A block may be given back** as one of any number of bytes of its class. -/
theorem Chronicle.Sound.giveBack_of_class {r : Registry} {h₀ : Heap} {claimed : Nat → List Nat}
    {pending : Multiset Mapping} {s : Chronicle} (hs : s.Sound (.registry r) h₀ claimed pending) {j bytes : Nat}
    {b : Block} (hb : s.2.live[j]? = some b) (hclass : SizeClass.fitting b.bytes ≠ SizeClass.unclassed)
    (hbytes : SizeClass.fitting bytes = SizeClass.fitting b.bytes) :
    ∃ e, e.act = .giveBack b.address bytes (.ok ()) ∧
      (s.giveBack (.registry r) j bytes).2 = ⟨s.2.live.eraseIdx j, s.2.entries ++ [e]⟩ := by
  have hheap := hs.heap
  rw [coe_live_eq_cons hb] at hheap
  have haccepts : (Source.registry r).accepts b.bytes bytes = true := by simp [Source.accepts, hbytes, hclass]
  obtain ⟨i, -, hroute, -⟩ := Source.route_of_class r (hbytes ▸ hclass)
  rw [Source.route_eq] at hroute
  have hk := Except.ok.inj hroute
  have hpool : b.pool = some (r.first + i) :=
    (hs.routed b (List.mem_of_getElem? hb)).trans ((Source.accepts_iff haccepts).1.symm.trans hk)
  obtain ⟨q, hq, -⟩ := hheap.give hpool
  rw [giveBack_of_poolOf hb haccepts hk hq]
  exact ⟨_, rfl, rfl⟩

/-- **A registry is the product of independent pools.** After any operations on a new registry, the pool of each class
has gone through the same states, and has given the same answers, as a new pool of the class alone, which was given the
requests of this class and the blocks of this class back in the same order and nesting, while a sound operating system
answered its requests for mappings in the same way. Requests without a class change no pool. Blocks are given back
without a fault, with any number of bytes of their class. -/
theorem run_product {os : Os} (hos : os.Sound) (policy : Policy) (ops : List Op) :
    ∃ r h s, Registry.create (Heap.onOs os) policy = (.ok r, h) ∧
      traceAll (.registry r) ops (Chronicle.start h) = s ∧
      (∀ i < SizeClass.count, ∃ size p, SizeClass.ofIndex i = .ok size ∧
        (∀ bytes, (Source.registry r).poolOf bytes = some (r.first + i) ↔ SizeClass.fitting bytes = size) ∧
        Pool.ofBlockSize policy size = .ok p ∧ p.maxArenas = 16 ∧
        ∃ script ops', (Os.told script).Sound ∧ s.Agree (r.first + i)
          (traceAll (.pool 0) ops' (Chronicle.start ((Heap.onOs (.told script)).addPools [p])))) ∧
      (∀ bytes, SizeClass.fitting bytes = SizeClass.unclassed → ∀ t : Chronicle,
        (∀ meanwhile refuse maps grown,
          (Op.trace (.registry r) (.allocate bytes (.mk meanwhile refuse :: maps) grown) t).1.pools = t.1.pools ∨
          (Op.trace (.registry r) (.allocate bytes (.mk meanwhile refuse :: maps) grown) t).1.pools =
            (traceAll (.registry r) meanwhile (t.note none (.ask bytes))).1.pools) ∧
        ∀ j, (Op.trace (.registry r) (.deallocate j bytes) t).1.pools = t.1.pools) ∧
      (∀ e ∈ s.2.entries, ∀ address bytes result, e.act = .giveBack address bytes result → result = .ok ()) ∧
      ∀ j b bytes, s.2.live[j]? = some b → SizeClass.fitting b.bytes ≠ SizeClass.unclassed →
        SizeClass.fitting bytes = SizeClass.fitting b.bytes →
        ∃ e, e.act = .giveBack b.address bytes (.ok ()) ∧
          (Op.trace (.registry r) (.deallocate j bytes) s).2 = ⟨s.2.live.eraseIdx j, s.2.entries ++ [e]⟩ := by
  have hfresh := Registry.create_fresh hos policy
  have hsound := hfresh.trace_sound (.registry ⟨policy, 0⟩) ops
  refine ⟨_, _, _, Registry.create_eq os policy, rfl, fun i hi => ?_, fun bytes hbytes t => ⟨?_, fun j => ?_⟩,
    fun e he => (hsound.entries e he).returned, fun j b bytes hb hclass hbytes => ?_⟩
  · refine ⟨_, _, ?_, fun bytes => Source.poolOf_eq_some_iff ⟨policy, 0⟩ bytes i,
      Registry.ofBlockSize_class policy hi, rfl, ?_⟩
    · rw [SizeClass.ofIndex, if_pos hi, Nat.shiftLeft_eq]
    · have hlt : i < (Registry.startHeap os policy).pools.size := by
        simpa [Registry.startHeap, Heap.addPools, Heap.onOs] using hi
      have hagree := hfresh.exists_agree hlt (.registry ⟨policy, 0⟩) ops
      rw [Registry.pool_startHeap os policy hi] at hagree
      rw [Nat.zero_add]
      exact hagree
  · exact fun meanwhile refuse maps grown => Op.pools_trace_of_unclassed _ hbytes meanwhile refuse maps grown t
  · rw [Op.trace]
    exact Chronicle.pools_giveBack_of_unclassed _ hbytes t j
  · rw [Op.trace]
    exact hsound.giveBack_of_class hb hclass hbytes

/-- While the pool for 128 bytes grows, others are given a mapping, fail to grow another pool, and take blocks from the
first one; a block of 100 bytes is given back as one of 70. -/
theorem run_product_nested : Os.standard.Sound ∧
    ∃ r h s, Registry.create (Heap.onOs .standard) .shared = (.ok r, h) ∧
      traceAll (.registry r) nestedRun (Chronicle.start h) = s ∧
      ∃ p script ops', Pool.ofBlockSize .shared 128 = .ok p ∧ (Os.told script).Sound ∧
        let t := traceAll (.pool 0) ops' (Chronicle.start ((Heap.onOs (.told script)).addPools [p]))
        t.1.pool 0 = s.1.pool (r.first + 4) ∧ t.2.live.length = 2 ∧ (t.2.seen 0).length = 7 ∧
          s.2.entries.length = 11 := by
  obtain ⟨r, h, s, hcreate, hs, hclasses, -⟩ := run_product Os.standard_sound .shared nestedRun
  refine ⟨Os.standard_sound, r, h, s, hcreate, hs, ?_⟩
  obtain ⟨size, p, hsize, -, hp, -, script, ops', htold, hagree⟩ := hclasses 4 (by decide)
  obtain rfl : 128 = size := Except.ok.inj ((by decide : SizeClass.ofIndex 4 = .ok 128).symm.trans hsize)
  rw [Registry.create_eq] at hcreate
  cases hcreate
  subst hs
  refine ⟨p, script, ops', hp, htold, hagree.pool, ?_, ?_, ?_⟩
  · rw [hagree.live]
    decide +kernel
  · rw [hagree.seen]
    decide +kernel
  · decide +kernel

end BlockHeap
