import BlockHeap.Proofs.Run.Calls
import BlockHeap.Proofs.SizeClass

/-!
# Runs keep a process sound

An operation keeps a process sound, and so does a list of operations, whatever slots are claimed and whatever mappings
are pending (`runAll_sound`): interludes that carry out operations are orderly, which is what the operations around them
rely on. Giving back a block in use always succeeds (`Heap.Sound.source_deallocate`).
-/

namespace BlockHeap

variable {src : Source} {h₀ : Heap} {claimed : Nat → List Nat} {pending : Multiset Mapping}

/-! ## Sources -/

namespace Source

/-- A request without a class gets a mapping of its own. -/
theorem route_of_unclassed (r : Registry) {bytes : Nat} (h : SizeClass.fitting bytes = SizeClass.unclassed) :
    r.route bytes = .ok none := by
  simp [Registry.route, h]

/-- A request with a class is served by the pool of the class. -/
theorem route_of_class (r : Registry) {bytes : Nat} (h : SizeClass.fitting bytes ≠ SizeClass.unclassed) :
    ∃ i, i < SizeClass.count ∧ r.route bytes = .ok (some (r.first + i)) ∧
      SizeClass.fitting bytes = SizeClass.least * 2 ^ i ∧ bytes ≤ SizeClass.fitting bytes := by
  obtain ⟨i, hi, hindex, heq, hle⟩ := SizeClass.index_fitting h
  exact ⟨i, hi, by simp [Registry.route, h, hindex, pure, Except.pure, bind, Except.bind], heq, hle⟩

/-- Requests never fail to be routed. -/
theorem route_eq (r : Registry) (bytes : Nat) : r.route bytes = .ok ((registry r).poolOf bytes) := by
  rw [poolOf]
  by_cases h : SizeClass.fitting bytes = SizeClass.unclassed
  · rw [route_of_unclassed r h]
  · obtain ⟨i, -, hroute, -⟩ := route_of_class r h
    rw [hroute]

/-- Where there is no pool there is no class. -/
theorem unclassed_of_poolOf {r : Registry} {bytes : Nat} (h : (registry r).poolOf bytes = none) :
    SizeClass.fitting bytes = SizeClass.unclassed := by
  by_contra hclass
  obtain ⟨i, -, hroute, -⟩ := route_of_class r hclass
  rw [route_eq, h] at hroute
  cases hroute

theorem poolOf_of_unclassed (r : Registry) {bytes : Nat} (h : SizeClass.fitting bytes = SizeClass.unclassed) :
    (registry r).poolOf bytes = none := by
  have hroute := route_of_unclassed r h
  rw [route_eq] at hroute
  exact Except.ok.inj hroute

theorem registry_allocate {ε : Type} (r : Registry) (c : Call ε) (bytes : Nat) :
    (registry r).allocate c bytes = match (registry r).poolOf bytes with
      | none => c.mapOversized bytes
      | some k => c.allocate k := by
  rw [allocate, Registry.allocate, route_eq]
  cases (registry r).poolOf bytes <;> rfl

theorem registry_deallocate {ε : Type} (r : Registry) (c : Call ε) (address bytes : Nat) :
    (registry r).deallocate c address bytes = match (registry r).poolOf bytes with
      | none => c.unmapOversized address bytes
      | some k => c.deallocate k address := by
  rw [deallocate, Registry.deallocate, route_eq]
  cases (registry r).poolOf bytes <;> rfl

theorem allocate_of_poolOf {ε : Type} {bytes k : Nat} (hk : src.poolOf bytes = some k) (c : Call ε) :
    src.allocate c bytes = c.allocate k := by
  cases src with
  | pool j =>
    obtain rfl : j = k := Option.some.inj hk
    rfl
  | registry r => rw [registry_allocate, hk]

theorem deallocate_of_poolOf {ε : Type} {bytes k : Nat} (hk : src.poolOf bytes = some k) (c : Call ε) (address : Nat) :
    src.deallocate c address bytes = c.deallocate k address := by
  cases src with
  | pool j =>
    obtain rfl : j = k := Option.some.inj hk
    rfl
  | registry r => rw [registry_deallocate, hk]

/-- Giving a mapping of a block back leaves the pools alone. -/
theorem pools_unmapOversized {ε : Type} (c : Call ε) (address bytes : Nat) :
    (c.unmapOversized address bytes).2.heap.pools = c.heap.pools := by
  unfold Call.unmapOversized
  split
  · rfl
  · split
    · split <;> rfl
    · rfl

/-- Giving a block back leaves the pools alone that it is not from. -/
theorem pool_deallocate {ε : Type} {bytes k : Nat} (hk : src.poolOf bytes ≠ some k) (c : Call ε) (address : Nat) :
    (src.deallocate c address bytes).2.heap.pool k = c.heap.pool k := by
  cases hj : src.poolOf bytes with
  | some j =>
    have hne : k ≠ j := fun e => hk (e ▸ hj)
    rw [deallocate_of_poolOf hj, Call.deallocate, Call.onPool_eq]
    exact Heap.pool_setPool_of_ne hne _
  | none =>
    cases src with
    | pool j => cases hj
    | registry r =>
      rw [registry_deallocate, hj, Heap.pool, pools_unmapOversized]
      rfl

theorem accepts_self (src : Source) (bytes : Nat) : src.accepts bytes bytes = true := by
  cases src with
  | pool k => rfl
  | registry r => simp [accepts]

/-- What is accepted is served by the same pool, and is the same where there is none. -/
theorem accepts_iff {asked bytes : Nat} (h : src.accepts asked bytes = true) :
    src.poolOf bytes = src.poolOf asked ∧ (src.poolOf asked = none → bytes = asked) := by
  cases src with
  | pool k => exact ⟨rfl, fun hn => (nomatch hn)⟩
  | registry r =>
    simp only [accepts, Bool.and_eq_true, Bool.or_eq_true, decide_eq_true_eq] at h
    refine ⟨?_, fun hnone => h.2.resolve_left fun hclass => hclass (unclassed_of_poolOf hnone)⟩
    simp only [poolOf, Registry.route, h.1]

end Source

/-! ## Single operations -/

/-- **Allocation** from a source ends in order, if nobody takes its pools away. -/
theorem Call.Keeps.source_allocate {ε : Type} {W : Terms ε} {c : Call ε} (hc : c.Keeps W claimed pending)
    (src : Source) (bytes : Nat) (hbusy : ∀ k, src.poolOf bytes = some k → W.Busy k) :
    Ended W (src.poolOf bytes) bytes claimed pending (src.allocate c bytes) := by
  cases src with
  | pool k => exact hc.allocate (hbusy k rfl) bytes
  | registry r =>
    rw [Source.registry_allocate]
    cases hk : (Source.registry r).poolOf bytes with
    | none => exact hc.mapOversized bytes
    | some k => exact hc.allocate (hbusy k hk) bytes

theorem Call.Sound.source_allocate {c : Call Ledger} (hc : c.Sound src h₀ claimed pending) (bytes : Nat) :
    Allocated src h₀ bytes claimed pending (src.allocate c bytes) :=
  allocated rfl (hc.keeps.source_allocate src bytes fun _ _ => trivial)

theorem Call.Allocated.settle {bytes : Nat} {r : Except Failure Nat × Call Ledger}
    (h : Allocated src h₀ bytes claimed pending r) : (Process.settle src bytes r).Sound src h₀ claimed pending := by
  cases h with
  | block h => exact h
  | nothing h => exact h
  | stalled h => exact h

/-- The block with a given number and all the others. -/
theorem coe_live_eq_cons {live : List Block} {i : Nat} {b : Block} (hi : live[i]? = some b) :
    (live : Multiset Block) = b ::ₘ (live.eraseIdx i : Multiset Block) := by
  obtain ⟨hlt, rfl⟩ := List.getElem?_eq_some_iff.mp hi
  exact coe_eq_cons_eraseIdx hlt

/-- A block is struck out. -/
theorem Process.Sound.withoutBlock {s : Process} (hs : s.Sound src h₀ claimed pending) {h : Heap} {i : Nat}
    (hh : h.Sound (s.2.live.eraseIdx i : List Block) claimed pending) (ha : s.1.Alike h) :
    Process.Sound src h₀ (Process.strike (h, s.2) i) claimed pending :=
  ⟨⟨hh, hs.alike.trans ha, fun b hb => hs.routed b (List.mem_of_mem_eraseIdx hb)⟩, hs.past⟩

/-- **Giving back a block in use** to its source succeeds, with any byte count that is accepted for it. -/
theorem Heap.Sound.source_deallocate {ε : Type} {h : Heap} {blocks : Multiset Block} {b : Block}
    (hs : h.Sound (b ::ₘ blocks) claimed pending) (hb : b.pool = src.poolOf b.bytes) {bytes : Nat}
    (hbytes : src.accepts b.bytes bytes = true) (rest : ε) :
    ∃ c, src.deallocate (Call.alone h rest) b.address bytes = (.ok (), c) ∧ c.rest = rest ∧
      (∀ j, (h.pool j).Kept (c.heap.pool j)) ∧ h.Proper c.heap ∧ c.heap.Sound blocks claimed pending := by
  obtain ⟨hpool, hsame⟩ := Source.accepts_iff hbytes
  have hfrom : ∀ k, b.pool = some k → ∃ c, (Call.alone h rest).deallocate k b.address = (.ok (), c) ∧
      c.rest = rest ∧ (∀ j, (h.pool j).Kept (c.heap.pool j)) ∧ h.Proper c.heap ∧
      c.heap.Sound blocks claimed pending := by
    intro k hk
    obtain ⟨q, h1, h2, h3⟩ := hs.give hk
    refine ⟨{ Call.alone h rest with heap := h.setPool k q }, ?_, rfl, Heap.kept_setPool h2, .keep h2, h3⟩
    rw [Call.deallocate, Call.onPool_eq]
    simp only [Call.alone, h1]
  cases src with
  | pool k => exact hfrom k hb
  | registry r =>
    rw [Source.registry_deallocate, hpool, ← hb]
    cases hk : b.pool with
    | some k => exact hfrom k hk
    | none =>
      obtain ⟨⟨offset, h1, -, h2⟩, h3⟩ := hs.unhouse hk
      obtain rfl : bytes = b.bytes := hsame (hb.symm.trans hk)
      refine ⟨((Call.alone h rest).log (.oversizedUnmapped b.bytes)).unmap b.mapping, ?_, rfl, fun _ => .refl _,
        .unmap (h3.pending_mem (Multiset.mem_cons_self _ _)), h3.unmap⟩
      have hread : (Call.alone h rest).heap.memory.read? (b.address + offset) = some (.handle b.mapping) := h2.read?
      simp only [Call.unmapOversized, h1, hread]
      exact if_pos rfl

theorem Process.Sound.deallocate_spec {s : Process} (hs : s.Sound src h₀ claimed pending) {i bytes : Nat} {b : Block}
    (hi : s.2.live[i]? = some b) (hbytes : src.accepts b.bytes bytes = true) :
    ∃ c, src.deallocate (Call.alone s.1 s.2) b.address bytes = (.ok (), c) ∧ c.rest = s.2 ∧
      (∀ j, (s.1.pool j).Kept (c.heap.pool j)) ∧ (c.process.strike i).Sound src h₀ claimed pending := by
  have hheap := hs.heap
  rw [coe_live_eq_cons hi] at hheap
  obtain ⟨c, h1, h2, h3, h4, h5⟩ :=
    hheap.source_deallocate (hs.routed b (List.mem_of_getElem? hi)) hbytes s.2
  refine ⟨c, h1, h2, h3, ?_⟩
  rw [Call.process, h2]
  exact hs.withoutBlock h5 h4.toAlike

theorem Process.Sound.giveBack {s : Process} (hs : s.Sound src h₀ claimed pending) (i bytes : Nat) :
    (s.giveBack src i bytes).Sound src h₀ claimed pending := by
  unfold Process.giveBack
  split
  · exact hs
  · rename_i b hb
    split
    · rename_i hbytes
      obtain ⟨c, h1, -, -, h2⟩ := hs.deallocate_spec hb hbytes
      rw [h1]
      exact h2
    · exact hs

/-! ## Runs -/

-- one induction over operations, answers and lists of both
mutual

/-- An operation keeps a process sound. -/
theorem Op.run_sound (op : Op) : ∀ {s : Process} {claimed : Nat → List Nat} {pending : Multiset Mapping},
    s.Sound src h₀ claimed pending → (op.run src s).Sound src h₀ claimed pending := by
  intro s claimed pending hs
  cases op with
  | allocate bytes maps grown =>
    rw [Op.run]
    have hc : Call.Sound src h₀ ⟨s.1, s.2, decisions src maps, interludes src grown, #[]⟩ claimed pending :=
      ⟨hs, decisions_orderly maps, interludes_orderly grown⟩
    exact (hc.source_allocate bytes).settle.record
  | deallocate i bytes =>
    rw [Op.run]
    exact (hs.giveBack i bytes).record

/-- **A run keeps a process sound.** -/
theorem runAll_sound (ops : List Op) : ∀ {s : Process} {claimed : Nat → List Nat} {pending : Multiset Mapping},
    s.Sound src h₀ claimed pending → (runAll src ops s).Sound src h₀ claimed pending := by
  intro s claimed pending hs
  cases ops with
  | nil =>
    rw [runAll]
    exact hs
  | cons op ops =>
    rw [runAll]
    exact runAll_sound ops (op.run_sound hs)

theorem Answer.decision_orderly (a : Answer) : Interlude.Orderly src h₀ (a.decision src).meanwhile := by
  cases a with
  | mk meanwhile refuse =>
    rw [Answer.decision]
    intro s claimed pending hs
    exact runAll_sound meanwhile hs.record

theorem decisions_orderly (as : List Answer) : ∀ d ∈ decisions src as, Interlude.Orderly src h₀ d.meanwhile := by
  cases as with
  | nil =>
    rw [decisions]
    intro d hd
    cases hd
  | cons a as =>
    rw [decisions]
    intro d hd
    rcases List.mem_cons.mp hd with rfl | hd
    · exact a.decision_orderly
    · exact decisions_orderly as d hd

theorem interludes_orderly (grown : List (List Op)) : ∀ f ∈ interludes src grown, Interlude.Orderly src h₀ f := by
  cases grown with
  | nil =>
    rw [interludes]
    intro f hf
    cases hf
  | cons ops rest =>
    rw [interludes]
    intro f hf
    rcases List.mem_cons.mp hf with rfl | hf
    · intro s claimed pending hs
      exact runAll_sound ops hs.record
    · exact interludes_orderly rest f hf

end

end BlockHeap
