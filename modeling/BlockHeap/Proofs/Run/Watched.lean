import BlockHeap.Proofs.Run.Journal

/-!
# Watching makes no difference

A call carries along what else the others work on, and cannot look at it. So two calls on the same heap end with the
same answer, the same events and the same heap when the others do the same to the heap, whatever they work on besides
(`Call.Same.source_allocate`): every stage of a call keeps the two calls related.

A watched run differs from a run with a ledger in what is written down only. The heap and the blocks in use are the same
(`traceAll_same`, `traceAll_start`).
-/

namespace BlockHeap

variable {ε ε' : Type} {R : ε → ε' → Prop}

/-- The same heap, and related work of others. -/
structure SameHeap (R : ε → ε' → Prop) (s : Heap × ε) (t : Heap × ε') : Prop where
  heap : t.1 = s.1
  rest : R s.2 t.2

/-- Both interludes do the same to the heap, and what else they work on stays related. -/
def Interlude.Same (R : ε → ε' → Prop) (f : Interlude ε) (g : Interlude ε') : Prop :=
  ∀ s t, SameHeap R s t → SameHeap R (f s) (g t)

theorem Interlude.same_id : Interlude.Same R id id := fun _ _ h => h

/-- The same answer, while others do the same. -/
structure Decision.Same (R : ε → ε' → Prop) (a : Decision ε) (b : Decision ε') : Prop where
  meanwhile : Interlude.Same R a.meanwhile b.meanwhile
  refuse : b.refuse = a.refuse

theorem Decision.same_grant : Decision.Same R .grant .grant := ⟨Interlude.same_id, rfl⟩

/-- What relates the defaults and the entries of two lists relates their first entries, and the entries of the rest. -/
theorem headD_tail_of_forall₂ {α β : Type} {P : α → β → Prop} {x : α} {y : β} {l : List α} {m : List β} (hd : P x y)
    (hl : List.Forall₂ P l m) : P (l.headD x) (m.headD y) ∧ List.Forall₂ P l.tail m.tail := by
  cases hl with
  | nil => exact ⟨hd, .nil⟩
  | cons h hl => exact ⟨h, hl⟩

namespace Call

/-- Two calls that differ in what else the others work on. -/
structure Same (R : ε → ε' → Prop) (c : Call ε) (d : Call ε') : Prop
    extends SameHeap R (c.heap, c.rest) (d.heap, d.rest) where
  decisions : List.Forall₂ (Decision.Same R) c.decisions d.decisions
  growths : List.Forall₂ (Interlude.Same R) c.growths d.growths
  events : d.events = c.events

/-- Two such calls have come to the same result. -/
structure SameResult {α : Type} (R : ε → ε' → Prop) (r : α × Call ε) (r' : α × Call ε') : Prop where
  result : r'.1 = r.1
  call : Same R r.2 r'.2

theorem SameResult.exists_eq {α : Type} {r : α × Call ε} {r' : α × Call ε'} (h : SameResult R r r') :
    ∃ x c d, r = (x, c) ∧ r' = (x, d) ∧ Same R c d :=
  ⟨r.1, r.2, r'.2, rfl, Prod.ext h.result rfl, h.call⟩

namespace Same

variable {c : Call ε} {d : Call ε'}

theorem heap_eq (h : Same R c d) : d.heap = c.heap := h.heap

/-- A step that changes the heap alone. -/
theorem withHeap (h : Same R c d) (heap : Heap) : Same R { c with heap } { d with heap } :=
  ⟨⟨rfl, h.rest⟩, h.decisions, h.growths, h.events⟩

theorem log (h : Same R c d) (e : Event) : Same R (c.log e) (d.log e) :=
  ⟨⟨h.heap, h.rest⟩, h.decisions, h.growths, congrArg (·.push e) h.events⟩

theorem unmap (h : Same R c d) (m : Mapping) : Same R (c.unmap m) (d.unmap m) :=
  ⟨⟨congrArg (·.unmap m) h.heap, h.rest⟩, h.decisions, h.growths, h.events⟩

theorem onPool {α : Type} (h : Same R c d) (k : Nat) (f : Pool → α × Pool) :
    SameResult R (c.onPool k f) (d.onPool k f) := by
  rw [onPool_eq, onPool_eq, h.heap_eq]
  exact ⟨rfl, h.withHeap _⟩

/-- Letting others work. -/
theorem interlude (h : Same R c d) {f : Interlude ε} {g : Interlude ε'} (hf : Interlude.Same R f g) :
    Same R (c.interlude f) (d.interlude g) :=
  ⟨hf _ _ h.toSameHeap, h.decisions, h.growths, h.events⟩

/-- Asking for a mapping. -/
theorem map (h : Same R c d) (size : Nat) : SameResult R (c.map size) (d.map size) := by
  obtain ⟨hnext, htail⟩ := headD_tail_of_forall₂ Decision.same_grant h.decisions
  have hasked : Same R { c with decisions := c.decisions.tail } { d with decisions := d.decisions.tail } :=
    ⟨h.toSameHeap, htail, h.growths, h.events⟩
  have hafter := hasked.interlude hnext.meanwhile
  rw [Call.map, Call.map, hnext.refuse]
  generalize ({ c with decisions := c.decisions.tail } : Call ε).interlude (c.decisions.headD .grant).meanwhile = c1
    at hafter ⊢
  generalize ({ d with decisions := d.decisions.tail } : Call ε').interlude (d.decisions.headD .grant).meanwhile = d1
    at hafter ⊢
  rw [hafter.heap_eq]
  cases (c1.heap.os.map size (c.decisions.headD .grant).refuse).1 with
  | ok m => exact ⟨rfl, hafter.withHeap _⟩
  | error e => exact ⟨rfl, (hafter.withHeap _).log _⟩

/-- Mapping the region of an arena. -/
theorem mapArena (h : Same R c d) (policy : Policy) (size : Nat) :
    SameResult R (c.mapArena policy size) (d.mapArena policy size) := by
  rw [Call.mapArena, Call.mapArena]
  cases Arena.Geometry.ofBlockSize size with
  | error f => exact ⟨rfl, h⟩
  | ok g =>
    obtain ⟨x, c1, d1, hc, hd, h1⟩ := (h.map Arena.regionBytes).exists_eq
    simp only [hc, hd]
    cases x with
    | error e => exact ⟨rfl, h1⟩
    | ok m =>
      dsimp only
      cases Arena.create policy g m with
      | error f => exact ⟨rfl, h1.unmap m⟩
      | ok a => exact ⟨rfl, h1.log _⟩

/-- Making an arena. -/
theorem houseArena (h : Same R c d) (policy : Policy) (size : Nat) :
    SameResult R (c.houseArena policy size) (d.houseArena policy size) := by
  obtain ⟨x, c1, d1, hc, hd, h1⟩ := (h.mapArena policy size).exists_eq
  rw [Call.houseArena, Call.houseArena, hc, hd]
  cases x with
  | error f => exact ⟨rfl, h1⟩
  | ok a =>
    obtain ⟨y, c2, d2, hc1, hd1, h2⟩ := (h1.map Arena.headerBytes).exists_eq
    simp only [house, hc1, hd1]
    cases y with
    | error e => exact ⟨rfl, h2.unmap a.region⟩
    | ok m => exact ⟨rfl, h2⟩

/-- Letting others work after a growth. -/
theorem announceGrowth (h : Same R c d) : Same R c.announceGrowth d.announceGrowth := by
  obtain ⟨hnext, htail⟩ := headD_tail_of_forall₂ Interlude.same_id h.growths
  have hgrown : Same R { c with growths := c.growths.tail } { d with growths := d.growths.tail } :=
    ⟨h.toSameHeap, h.decisions, htail, h.events⟩
  exact hgrown.interlude hnext

/-- Filling a claimed slot, or giving it back. -/
theorem fillSlot (h : Same R c d) (k slot : Nat) : SameResult R (c.fillSlot k slot) (d.fillSlot k slot) := by
  rw [Call.fillSlot, Call.fillSlot, h.heap_eq]
  obtain ⟨x, c1, d1, hc, hd, h1⟩ := (h.houseArena (c.heap.pool k).policy (c.heap.pool k).blockSize).exists_eq
  simp only [hc, hd]
  cases x with
  | ok r => exact ⟨rfl, ((h1.onPool k fun p => ((), p.publish slot r)).call.log _).announceGrowth⟩
  | error f =>
    cases f with
    | error e =>
      have hback := h1.onPool k (·.giveBack slot)
      refine ⟨rfl, ?_⟩
      dsimp only
      rw [hback.result]
      exact hback.call.log _
    | fault f => exact ⟨rfl, h1⟩
    | stalled => exact ⟨rfl, h1⟩

/-- One round of an allocation. -/
theorem round (h : Same R c d) (k : Nat) : SameResult R (c.round k) (d.round k) := by
  rw [Call.round, Call.round, h.heap_eq]
  obtain ⟨x, c1, d1, hc, hd, h1⟩ := (h.onPool k (·.takeExisting (c.heap.pool k).count)).exists_eq
  simp only [hc, hd]
  rcases x with f | _ | a
  · exact ⟨rfl, h1⟩
  swap
  · exact ⟨rfl, h1⟩
  dsimp only
  rw [h1.heap_eq]
  split
  · exact ⟨rfl, h1.log _⟩
  obtain ⟨x, c2, d2, hc, hd, h2⟩ := (h1.onPool k (·.claimSlot (c.heap.pool k).count)).exists_eq
  simp only [hc, hd]
  cases x with
  | false => exact ⟨rfl, h2⟩
  | true =>
    obtain ⟨x, c3, d3, hc, hd, h3⟩ := (h2.fillSlot k (c.heap.pool k).count).exists_eq
    simp only [hc, hd]
    cases x with
    | error f => exact ⟨rfl, h3⟩
    | ok =>
      obtain ⟨x, c4, d4, hc, hd, h4⟩ := (h3.onPool k (·.takeFrom (c.heap.pool k).count)).exists_eq
      simp only [hc, hd]
      rcases x with f | _ | a
      · exact ⟨rfl, h4⟩
      · exact ⟨rfl, h4⟩
      · exact ⟨rfl, h4⟩

theorem rounds (k fuel : Nat) : ∀ {c : Call ε} {d : Call ε'}, Same R c d →
    SameResult R (c.rounds k fuel) (d.rounds k fuel) := by
  induction fuel with
  | zero =>
    intro c d h
    exact ⟨rfl, h⟩
  | succ fuel ih =>
    intro c d h
    obtain ⟨x, c1, d1, hc, hd, h1⟩ := (h.round k).exists_eq
    rw [Call.rounds, Call.rounds, hc, hd]
    cases x with
    | none => exact ih h1
    | some r => exact ⟨rfl, h1⟩

/-- **Allocation from a pool.** -/
theorem allocate (h : Same R c d) (k : Nat) : SameResult R (c.allocate k) (d.allocate k) := by
  rw [Call.allocate, Call.allocate, h.heap_eq]
  exact rounds k _ h

/-- **Allocation of a mapping.** -/
theorem mapOversized (h : Same R c d) (bytes : Nat) : SameResult R (c.mapOversized bytes) (d.mapOversized bytes) := by
  rw [Call.mapOversized, Call.mapOversized]
  split
  · rename_i offset total _ _
    obtain ⟨x, c1, d1, hc, hd, h1⟩ := (h.map total).exists_eq
    simp only [hc, hd]
    cases x with
    | error e => exact ⟨rfl, h1⟩
    | ok m =>
      dsimp only
      rw [h1.heap_eq]
      exact ⟨rfl, (h1.withHeap _).log _⟩
  · exact ⟨rfl, h⟩

/-- Giving back a mapping. -/
theorem unmapOversized (h : Same R c d) (block bytes : Nat) :
    SameResult R (c.unmapOversized block bytes) (d.unmapOversized block bytes) := by
  rw [Call.unmapOversized, Call.unmapOversized, h.heap_eq]
  split
  · exact ⟨rfl, h⟩
  · split
    · split
      · exact ⟨rfl, (h.log _).unmap _⟩
      · exact ⟨rfl, h⟩
    · exact ⟨rfl, h⟩

/-- **Allocation from a source** does not depend on what else the others work on. -/
theorem source_allocate (h : Same R c d) (src : Source) (bytes : Nat) :
    SameResult R (src.allocate c bytes) (src.allocate d bytes) := by
  cases src with
  | pool k => exact h.allocate k
  | registry r =>
    rw [Source.registry_allocate, Source.registry_allocate]
    cases (Source.registry r).poolOf bytes with
    | none => exact h.mapOversized bytes
    | some k => exact h.allocate k

/-- **Giving a block back to a source** does not depend on what else the others work on. -/
theorem source_deallocate (h : Same R c d) (src : Source) (block bytes : Nat) :
    SameResult R (src.deallocate c block bytes) (src.deallocate d block bytes) := by
  cases src with
  | pool k => exact h.onPool k _
  | registry r =>
    rw [Source.registry_deallocate, Source.registry_deallocate]
    cases (Source.registry r).poolOf bytes with
    | none => exact h.unmapOversized block bytes
    | some k => exact h.onPool k _

end Same

end Call

/-! ## Watched runs -/

/-- The ledger and the journal name the same blocks. -/
def SameLive (l : Ledger) (j : Journal) : Prop := j.live = l.live

variable {src : Source} {s : Process} {t : Chronicle}

theorem SameHeap.record (h : SameHeap SameLive s t) : SameHeap SameLive s.record t := ⟨h.heap, h.rest⟩

theorem SameHeap.note (h : SameHeap SameLive s t) (pool : Option Nat) (act : Act) :
    SameHeap SameLive s (t.note pool act) := ⟨h.heap, h.rest⟩

theorem SameHeap.enter (h : SameHeap SameLive s t) (b : Block) : SameHeap SameLive (s.enter b) (t.enter b) :=
  ⟨h.heap, congrArg (fun live => live ++ [b]) h.rest⟩

theorem SameHeap.strike (h : SameHeap SameLive s t) (i : Nat) : SameHeap SameLive (s.strike i) (t.strike i) :=
  ⟨h.heap, congrArg (fun live : List Block => live.eraseIdx i) h.rest⟩

/-- An allocation ends in the same way. -/
theorem Call.SameResult.settle {r : Except Failure Nat × Call Ledger} {r' : Except Failure Nat × Call Journal}
    (h : SameResult SameLive r r') (bytes : Nat) :
    SameHeap SameLive (Process.settle src bytes r) (Chronicle.settle src bytes r') := by
  obtain ⟨x, c, d, rfl, rfl, hcall⟩ := h.exists_eq
  cases x with
  | ok x => exact (SameHeap.enter hcall.toSameHeap _).note _ _
  | error f => exact SameHeap.note hcall.toSameHeap _ _

/-- A block is given back in the same way. -/
theorem SameHeap.giveBack (h : SameHeap SameLive s t) (i bytes : Nat) :
    SameHeap SameLive (s.giveBack src i bytes) (t.giveBack src i bytes) := by
  have hlive : t.2.live = s.2.live := h.rest
  rw [Process.giveBack, Chronicle.giveBack, hlive]
  cases s.2.live[i]? with
  | none => exact h
  | some b =>
    have halone : Call.Same SameLive (Call.alone s.1 s.2) (Call.alone t.1 t.2) := ⟨h, .nil, .nil, rfl⟩
    obtain ⟨x, c, d, hc, hd, hcall⟩ := (halone.source_deallocate src b.address bytes).exists_eq
    simp only [hc, hd]
    split
    · cases x with
      | ok => exact (SameHeap.strike hcall.toSameHeap i).note _ _
      | error f => exact SameHeap.note hcall.toSameHeap _ _
    · exact h

-- one induction over operations, answers and lists of both
mutual

/-- An operation does the same when it is watched. -/
theorem Op.trace_same (op : Op) : Interlude.Same SameLive (op.run src) (op.trace src) := by
  intro s t h
  cases op with
  | allocate bytes maps grown =>
    rw [Op.run, Op.trace]
    have hcall : Call.Same SameLive ⟨s.1, s.2, decisions src maps, interludes src grown, #[]⟩
        ⟨t.1, (Chronicle.note t (src.poolOf bytes) (.ask bytes)).2, tracedDecisions src maps,
          tracedGrowths src grown, #[]⟩ :=
      ⟨h.note _ _, tracedDecisions_same maps, tracedGrowths_same grown, rfl⟩
    exact ((hcall.source_allocate src bytes).settle bytes).record
  | deallocate i bytes =>
    rw [Op.run, Op.trace]
    exact (h.giveBack i bytes).record

/-- **Watching makes no difference** to what a run does. -/
theorem traceAll_same (ops : List Op) : Interlude.Same SameLive (runAll src ops) (traceAll src ops) := by
  intro s t h
  cases ops with
  | nil =>
    rw [runAll, traceAll]
    exact h
  | cons op ops =>
    rw [runAll, traceAll]
    exact traceAll_same ops _ _ (op.trace_same _ _ h)

theorem Answer.traced_same (a : Answer) : Decision.Same SameLive (a.decision src) (a.traced src) := by
  cases a with
  | mk meanwhile refuse =>
    rw [Answer.decision, Answer.traced]
    exact ⟨fun s t h => traceAll_same meanwhile _ _ h.record, rfl⟩

theorem tracedDecisions_same (as : List Answer) :
    List.Forall₂ (Decision.Same SameLive) (decisions src as) (tracedDecisions src as) := by
  cases as with
  | nil =>
    rw [decisions, tracedDecisions]
    exact .nil
  | cons a as =>
    rw [decisions, tracedDecisions]
    exact .cons a.traced_same (tracedDecisions_same as)

theorem tracedGrowths_same (grown : List (List Op)) :
    List.Forall₂ (Interlude.Same SameLive) (interludes src grown) (tracedGrowths src grown) := by
  cases grown with
  | nil =>
    rw [interludes, tracedGrowths]
    exact .nil
  | cons ops rest =>
    rw [interludes, tracedGrowths]
    exact .cons (fun s t h => traceAll_same ops _ _ h.record) (tracedGrowths_same rest)

end

/-- A watched run from the start comes to the same heap, with the same blocks in use. -/
theorem traceAll_start (src : Source) (ops : List Op) (h : Heap) :
    (traceAll src ops (Chronicle.start h)).1 = (runAll src ops (Process.start h)).1 ∧
      (traceAll src ops (Chronicle.start h)).2.live = (runAll src ops (Process.start h)).2.live := by
  have hsame : SameHeap SameLive (runAll src ops (Process.start h)) (traceAll src ops (Chronicle.start h)) :=
    traceAll_same ops _ _ ⟨rfl, rfl⟩
  exact ⟨hsame.heap, hsame.rest⟩

end BlockHeap
