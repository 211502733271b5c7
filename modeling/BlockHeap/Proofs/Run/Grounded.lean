import BlockHeap.Proofs.Run.Onward

/-!
# Blocks are never null

The operating system grants no mapping at address 0, so no arena begins there, and no oversized block is there
(`Moment.Grounded`). Calls keep this up when the others do, in whatever state the free maps are: nothing but a new
mapping, and what is done with it, matters (`Call.Lands`). So it holds at each moment of each run from a fresh heap
(`Heap.Fresh.run_grounded`), whatever was mapped before.
-/

namespace BlockHeap

/-! ## Arenas -/

/-- The use of an arena does not move it. -/
theorem Arena.Use.base_eq {a b : Arena} (h : a.Use b) : b.base = a.base := by
  cases h with
  | allocate =>
    unfold Arena.allocate
    split
    · rfl
    · dsimp only
      split <;> rfl
  | deallocate address =>
    unfold Arena.deallocate
    split
    · rfl
    · dsimp only
      split <;> rfl

theorem Arena.Evolves.base_eq {a b : Arena} (h : a.Evolves b) : b.base = a.base := by
  induction h with
  | refl => rfl
  | tail _ hstep ih => exact hstep.base_eq.trans ih

/-- A fresh arena begins where its region does. -/
theorem Arena.base_of_create {policy : Policy} {g : Geometry} {region : Mapping} {a : Arena}
    (h : create policy g region = .ok a) : a.base = region.start := by
  unfold create at h
  cases hfree : FreeMap.create g.shape g.blockCount with
  | error f =>
    rw [hfree] at h
    cases h
  | ok free =>
    rw [hfree] at h
    cases h
    rfl

namespace Pool

variable {p q : Pool}

/-- No arena of the pool begins at address 0. -/
def Grounded (p : Pool) : Prop := ∀ i r, p.slot? i = some r → 0 < r.value.base

theorem Grounded.work (h : p.Grounded) (hw : p.Work q) : q.Grounded := by
  intro i r hr
  have hsome : (p.slot? i).isSome = true := by
    rw [← hw.isSome_slot?, hr]
    rfl
  obtain ⟨s, hs⟩ := Option.isSome_iff_exists.mp hsome
  obtain ⟨a, ha, hevolves⟩ := hw.onward.arena i s hs
  obtain rfl := Option.some.inj (hr.symm.trans ha)
  exact (h i s hs).trans_eq hevolves.base_eq.symm

theorem Grounded.publish (h : p.Grounded) {r : Resident Arena} (hr : 0 < r.value.base) (i : Nat) :
    (p.publish i r).Grounded := by
  intro j s hs
  have hput : (p.putSlot i (some r)).slot? j = some s := hs
  by_cases hj : j = i
  · subst hj
    have hcap : j < capacity := lt_capacity (by rw [hput]; rfl)
    rw [slot?_putSlot_self hcap] at hput
    rw [← Option.some.inj hput]
    exact hr
  · rw [slot?_putSlot_of_ne hj] at hput
    exact h j s hput

theorem Grounded.giveBack (h : p.Grounded) (i : Nat) : (p.giveBack i).2.Grounded := by
  unfold Pool.giveBack
  split <;> exact h

theorem Grounded.claimSlot (h : p.Grounded) (n : Nat) : (p.claimSlot n).2.Grounded := by
  unfold Pool.claimSlot
  split <;> exact h

end Pool

/-! ## Heaps -/

/-- The operating system is sound, and no arena begins at address 0. -/
structure Heap.Grounded (h : Heap) : Prop where
  os : h.os.Sound
  pools : ∀ k, (h.pool k).Grounded

theorem Heap.Grounded.setPool {h : Heap} (hg : h.Grounded) (k : Nat) {q : Pool} (hq : q.Grounded) :
    (h.setPool k q).Grounded := by
  refine ⟨hg.os, fun j => ?_⟩
  rcases Nat.lt_or_ge k h.pools.size with hk | hk
  · rw [Heap.pool_setPool hk]
    split
    · exact hq
    · exact hg.pools j
  · rw [Heap.setPool_of_le hk]
    exact hg.pools j

/-- A fresh heap has no arenas. -/
theorem Heap.Fresh.grounded {h : Heap} (h' : h.Fresh) : h.Grounded := by
  refine ⟨h'.os, fun k i r hr => ?_⟩
  have hmem : r ∈ (h.pool k).arenas := Pool.mem_arenas.mpr ⟨i, hr⟩
  rw [(h'.pool_sound k).2] at hmem
  cases hmem

/-- No arena begins at address 0, and no oversized block is there. -/
structure Moment.Grounded (m : Moment) : Prop where
  heap : m.heap.Grounded
  own : ∀ b ∈ m.live, b.pool = none → 0 < b.address

/-- The process is grounded, and was so at each moment. -/
structure Process.Grounded (s : Process) : Prop where
  now : Moment.Grounded ⟨s.1, s.2.live⟩
  past : ∀ m ∈ s.2.past, m.Grounded

/-- The interlude keeps processes grounded. -/
def Interlude.Grounding (f : Interlude Ledger) : Prop := ∀ s : Process, Process.Grounded s → Process.Grounded (f s)

theorem Process.Grounded.withHeap {s : Process} (hs : s.Grounded) {h : Heap} (hh : h.Grounded) :
    Process.Grounded (h, s.2) := ⟨⟨hh, hs.now.own⟩, hs.past⟩

theorem Process.Grounded.record {s : Process} (hs : s.Grounded) : s.record.Grounded := by
  refine ⟨hs.now, fun m hm => ?_⟩
  rcases List.mem_append.mp hm with hm | hm
  · exact hs.past m hm
  · rw [List.mem_singleton.mp hm]
    exact hs.now

/-! ## Calls -/

namespace Call

variable {α β : Type} {P : α → Prop} {c : Call Ledger} {k slot : Nat}

/-- The process of a call is grounded, and so it stays in the interludes to come. -/
structure Grounded (c : Call Ledger) : Prop where
  process : c.process.Grounded
  decisions : ∀ d ∈ c.decisions, Interlude.Grounding d.meanwhile
  growths : ∀ f ∈ c.growths, Interlude.Grounding f

/-- A call has ended grounded, and if it has succeeded, with a result as it should be. -/
structure Lands (P : α → Prop) (r : Except β α × Call Ledger) : Prop where
  call : r.2.Grounded
  result : ∀ x, r.1 = .ok x → P x

theorem Lands.of_error {c : Call Ledger} (hc : c.Grounded) (e : β) : Lands P (.error e, c) := by
  refine ⟨hc, fun x h => ?_⟩
  cases h

theorem Lands.of_ok {c : Call Ledger} (hc : c.Grounded) {x : α} (hx : P x) :
    Lands P ((.ok x, c) : Except β α × Call Ledger) :=
  ⟨hc, fun _ h => Except.ok.inj h ▸ hx⟩

namespace Grounded

/-- A step that changes the heap alone, and may log. -/
theorem withHeap (hc : c.Grounded) {h : Heap} (hh : h.Grounded) (events : Array Event) :
    Grounded { c with heap := h, events } :=
  ⟨hc.process.withHeap hh, hc.decisions, hc.growths⟩

theorem heap (hc : c.Grounded) : c.heap.Grounded := hc.process.now.heap

theorem log (hc : c.Grounded) (e : Event) : (c.log e).Grounded := hc.withHeap hc.heap _

theorem onPool (hc : c.Grounded) (f : Pool → α × Pool) (hf : (f (c.heap.pool k)).2.Grounded) :
    (c.onPool k f).2.Grounded := by
  rw [onPool_eq]
  exact hc.withHeap (hc.heap.setPool k hf) _

/-- Giving a mapping back. -/
theorem unmap (hc : c.Grounded) (m : Mapping) : (c.unmap m).Grounded := by
  have hh : (c.heap.unmap m).Grounded := ⟨hc.heap.os.unmap m, hc.heap.pools⟩
  exact hc.withHeap hh c.events

/-- **Asking for a mapping**, which is not at address 0. -/
theorem map (hc : c.Grounded) (size : Nat) : Lands (0 < ·.start) (c.map size) := by
  have hkeeps : Interlude.Grounding (c.decisions.headD .grant).meanwhile :=
    headD_of_forall (P := fun d : Decision Ledger => Interlude.Grounding d.meanwhile) (fun _ hs => hs) hc.decisions
  have hs := hkeeps _ hc.process
  generalize hmeanwhile : (c.decisions.headD .grant).meanwhile c.process = s at hs
  have hsound := hs.now.heap.os.map size (c.decisions.headD .grant).refuse
  cases hos : s.1.os.map size (c.decisions.headD .grant).refuse with
  | mk x os =>
    rw [hos] at hsound
    rw [map_of_answer hmeanwhile hos]
    refine ⟨⟨hs.withHeap ⟨hsound, hs.now.heap.pools⟩, fun d hd => hc.decisions d (List.mem_of_mem_tail hd), hc.growths⟩,
      fun m hm => ?_⟩
    cases x with
    | error e => cases hm
    | ok m' =>
      obtain rfl : m' = m := Except.ok.inj hm
      exact hs.now.heap.os.start_pos hos

/-! ### Growth -/

theorem mapArena (hc : c.Grounded) (policy : Policy) (size : Nat) : Lands (0 < ·.base) (c.mapArena policy size) := by
  unfold Call.mapArena
  split
  · exact .of_error hc _
  · have hmap := hc.map Arena.regionBytes
    split
    · rename_i hm
      rw [hm] at hmap
      exact .of_error hmap.call _
    · rename_i region c' hm
      rw [hm] at hmap
      split
      · exact .of_error (hmap.call.unmap region) _
      · rename_i arena harena
        exact .of_ok (hmap.call.log _) ((hmap.result region rfl).trans_eq (Arena.base_of_create harena).symm)

theorem houseArena (hc : c.Grounded) (policy : Policy) (size : Nat) :
    Lands (0 < ·.value.base) (c.houseArena policy size) := by
  have harena := hc.mapArena policy size
  unfold Call.houseArena
  split
  · rename_i hm
    rw [hm] at harena
    exact .of_error harena.call _
  · rename_i arena c' hm
    rw [hm] at harena
    have hmap := harena.call.map Arena.headerBytes
    rw [Call.house]
    split
    · rename_i hm'
      split at hm' <;> cases hm'
      rename_i hm'
      rw [hm'] at hmap
      exact .of_error (hmap.call.unmap _) _
    · rename_i hm'
      split at hm' <;> cases hm'
      rename_i hm'
      rw [hm'] at hmap
      exact .of_ok hmap.call (harena.result arena rfl)

/-- Letting others work after a growth. -/
theorem announceGrowth (hc : c.Grounded) : c.announceGrowth.Grounded := by
  have hkeeps : Interlude.Grounding (c.growths.headD id) := headD_of_forall (fun _ hs => hs) hc.growths
  exact ⟨hkeeps _ hc.process, hc.decisions, fun f hf => hc.growths f (List.mem_of_mem_tail hf)⟩

/-- A claimed slot is filled, or given back. -/
theorem fillSlot (hc : c.Grounded) (k slot : Nat) : (c.fillSlot k slot).2.Grounded := by
  have harena := hc.houseArena (c.heap.pool k).policy (c.heap.pool k).blockSize
  unfold Call.fillSlot
  dsimp only
  split
  · rename_i resident c' hm
    rw [hm] at harena
    have hput := (harena.call.heap.pools k).publish (harena.result resident rfl) slot
    exact ((harena.call.onPool (fun p => ((), p.publish slot resident)) hput).log _).announceGrowth
  · rename_i c' hm
    rw [hm] at harena
    exact (harena.call.onPool (·.giveBack slot) ((harena.call.heap.pools k).giveBack slot)).log _
  · rename_i hm
    rw [hm] at harena
    exact harena.call

theorem round (hc : c.Grounded) (k : Nat) : (c.round k).2.Grounded := by
  have hsearch := hc.onPool (k := k) (·.takeExisting (c.heap.pool k).count)
    ((hc.heap.pools k).work (Pool.takeExisting_work _ _))
  unfold Call.round
  dsimp only
  split
  · rename_i h1
    rwa [h1] at hsearch
  · rename_i h1
    rwa [h1] at hsearch
  · rename_i c1 h1
    rw [h1] at hsearch
    split
    · exact hsearch.log _
    · have hclaim := hsearch.onPool (k := k) (·.claimSlot (c.heap.pool k).count)
        ((hsearch.heap.pools k).claimSlot _)
      split
      · rename_i h2
        rwa [h2] at hclaim
      · rename_i c2 h2
        rw [h2] at hclaim
        have hfill := hclaim.fillSlot k (c.heap.pool k).count
        split
        · rename_i h3
          rwa [h3] at hfill
        · rename_i c3 h3
          rw [h3] at hfill
          have htake := hfill.onPool (k := k) (·.takeFrom (c.heap.pool k).count)
            ((hfill.heap.pools k).work (Pool.takeFrom_work _ _))
          split <;> (rename_i h4; rwa [h4] at htake)

theorem rounds (k fuel : Nat) : ∀ {c : Call Ledger}, c.Grounded → (c.rounds k fuel).2.Grounded := by
  induction fuel with
  | zero => exact fun hc => hc
  | succ fuel ih =>
    intro c hc
    have hround := hc.round k
    rw [Call.rounds]
    split
    · rename_i h
      rwa [h] at hround
    · rename_i h
      rw [h] at hround
      exact ih hround

/-! ### Oversized blocks -/

/-- An oversized block is not at address 0. -/
theorem mapOversized (hc : c.Grounded) (size : Nat) : Lands (0 < ·) (c.mapOversized size) := by
  unfold Call.mapOversized
  split
  · rename_i offset total _ _
    have hmap := hc.map total
    split
    · rename_i h
      rw [h] at hmap
      exact .of_error hmap.call _
    · rename_i m c' h
      rw [h] at hmap
      have hheap : Heap.Grounded { c'.heap with
          memory := c'.heap.memory.write (m.start + offset) Oversized.handleBytes (.handle m) } :=
        ⟨hmap.call.heap.os, hmap.call.heap.pools⟩
      exact .of_ok (hmap.call.withHeap hheap _) (hmap.result m rfl)
  · exact .of_error hc _

theorem unmapOversized (hc : c.Grounded) (address size : Nat) : (c.unmapOversized address size).2.Grounded := by
  unfold Call.unmapOversized
  split
  · exact hc
  · split
    · split
      · exact (hc.log _).unmap _
      · exact hc
    · exact hc

/-! ### Sources -/

variable {src : Source}

/-- **Allocation**: an oversized block is not at address 0. -/
theorem allocate (hc : c.Grounded) (src : Source) (bytes : Nat) :
    Lands (fun x => src.poolOf bytes = none → 0 < x) (src.allocate c bytes) := by
  rcases src.allocate_cases c bytes with ⟨k, hk, halloc⟩ | ⟨-, halloc⟩
  · rw [halloc]
    exact ⟨rounds k _ hc, fun x _ hnone => by rw [hk] at hnone; cases hnone⟩
  · rw [halloc]
    exact ⟨(hc.mapOversized bytes).call, fun x hx _ => (hc.mapOversized bytes).result x hx⟩

theorem deallocate (hc : c.Grounded) (src : Source) (address bytes : Nat) :
    (src.deallocate c address bytes).2.Grounded := by
  rcases src.deallocate_cases c address bytes with ⟨k, -, hdealloc⟩ | ⟨-, hdealloc⟩
  · rw [hdealloc]
    exact hc.onPool _ ((hc.heap.pools k).work (Pool.deallocate_work _ _))
  · rw [hdealloc]
    exact hc.unmapOversized address bytes

end Grounded

end Call

/-! ## Runs -/

namespace Process

variable {src : Source}

/-- The block with which an allocation has ended is entered. -/
theorem Grounded.settle {bytes : Nat} {r : Except Failure Nat × Call Ledger}
    (h : Call.Lands (fun x => src.poolOf bytes = none → 0 < x) r) : (settle src bytes r).Grounded := by
  obtain ⟨answer, c⟩ := r
  cases answer with
  | error f => exact h.call.process
  | ok x =>
    refine ⟨⟨h.call.heap, fun b hb hp => ?_⟩, h.call.process.past⟩
    rcases List.mem_append.mp hb with hb | hb
    · exact h.call.process.now.own b hb hp
    · obtain rfl := List.mem_singleton.mp hb
      exact h.result x rfl hp

theorem Grounded.giveBack {s : Process} (hs : s.Grounded) (i bytes : Nat) : (s.giveBack src i bytes).Grounded := by
  unfold Process.giveBack
  split
  · exact hs
  · rename_i b _
    split
    · have hc : (Call.alone s.1 s.2).Grounded :=
        ⟨hs, fun _ hd => absurd hd List.not_mem_nil, fun _ hf => absurd hf List.not_mem_nil⟩
      have hcall := hc.deallocate src b.address bytes
      split
      · rename_i c hd
        rw [hd] at hcall
        exact ⟨⟨hcall.heap, fun b hb => hcall.process.now.own b (List.mem_of_mem_eraseIdx hb)⟩, hcall.process.past⟩
      · rename_i c hd
        rw [hd] at hcall
        exact hcall.process
    · exact hs

end Process

section

variable {src : Source}

-- one induction over operations, answers and lists of both
mutual

theorem Op.run_grounding (op : Op) : Interlude.Grounding (op.run src) := by
  cases op with
  | allocate bytes maps grown =>
    intro s hs
    rw [Op.run]
    have hc : Call.Grounded ⟨s.1, s.2, decisions src maps, interludes src grown, #[]⟩ :=
      ⟨hs, decisions_grounding maps, interludes_grounding grown⟩
    exact (Process.Grounded.settle (hc.allocate src bytes)).record
  | deallocate i bytes =>
    intro s hs
    rw [Op.run]
    exact (hs.giveBack i bytes).record

theorem runAll_grounding (ops : List Op) : Interlude.Grounding (runAll src ops) := by
  cases ops with
  | nil =>
    intro s hs
    rw [runAll]
    exact hs
  | cons op ops =>
    intro s hs
    rw [runAll]
    exact runAll_grounding ops _ (op.run_grounding s hs)

theorem Answer.decision_grounding (a : Answer) : Interlude.Grounding (a.decision src).meanwhile := by
  cases a with
  | mk meanwhile refuse =>
    rw [Answer.decision]
    exact fun s hs => runAll_grounding meanwhile _ hs.record

theorem decisions_grounding (as : List Answer) : ∀ d ∈ decisions src as, Interlude.Grounding d.meanwhile := by
  cases as with
  | nil =>
    rw [decisions]
    exact fun _ hd => absurd hd List.not_mem_nil
  | cons a as =>
    rw [decisions]
    intro d hd
    rcases List.mem_cons.mp hd with rfl | hd
    · exact a.decision_grounding
    · exact decisions_grounding as d hd

theorem interludes_grounding (grown : List (List Op)) : ∀ f ∈ interludes src grown, Interlude.Grounding f := by
  cases grown with
  | nil =>
    rw [interludes]
    exact fun _ hf => absurd hf List.not_mem_nil
  | cons ops rest =>
    rw [interludes]
    intro f hf
    rcases List.mem_cons.mp hf with rfl | hf
    · exact fun s hs => runAll_grounding ops _ hs.record
    · exact interludes_grounding rest f hf

end

end

/-- **Blocks are never null**, at any moment of any run from a fresh heap: no arena begins at address 0, and no
oversized block is there. -/
theorem Heap.Fresh.run_grounded {h : Heap} (h' : h.Fresh) (src : Source) (ops : List Op) :
    ∀ m ∈ (runAll src ops (Process.start h)).moments, m.Grounded := by
  have hstart : (Process.start h).Grounded :=
    ⟨⟨h'.grounded, fun _ hb => absurd hb List.not_mem_nil⟩, fun _ hm => absurd hm List.not_mem_nil⟩
  exact (runAll_grounding ops _ hstart).record.past

end BlockHeap
