import BlockHeap.Proofs.Heap.Calls
import BlockHeap.Proofs.Run.Basic

/-!
# Calls keep a process sound

A process is *sound* (`Process.Sound`) when its heap is, with the blocks of the ledger in use, and when this was so at
each moment recorded. An interlude is *orderly* when it keeps processes sound, whatever slots are claimed and whatever
mappings are pending meanwhile. These are terms that calls keep (`Process.terms`): a call whose interludes are orderly
keeps its process sound at each step, and when an allocation ends with a block, the process is sound with this block
entered in the ledger:

- making an arena (`Call.Sound.houseArena_spec`);
- filling a claimed slot, or giving it back (`Call.Sound.fillSlot_spec`);
- ending an allocation (`Call.Sound.allocated`), in particular one from a pool (`Call.Sound.allocate`).
-/

namespace BlockHeap

/-- The heap is sound with the blocks in use, its pools are those of the start, and every block is from the pool that
serves requests like its own. -/
structure Process.Fine (src : Source) (h₀ h : Heap) (live : List Block) (claimed : Nat → List Nat)
    (pending : Multiset Mapping) : Prop where
  heap : h.Sound live claimed pending
  alike : h₀.Alike h
  routed : ∀ b ∈ live, b.pool = src.poolOf b.bytes

/-- The process is in order, and was so at each moment. -/
structure Process.Sound (src : Source) (h₀ : Heap) (s : Process) (claimed : Nat → List Nat)
    (pending : Multiset Mapping) : Prop extends Process.Fine src h₀ s.1 s.2.live claimed pending where
  past : ∀ m ∈ s.2.past, ∃ claimed pending, Process.Fine src h₀ m.heap m.live claimed pending

/-- The interlude keeps processes sound. -/
def Interlude.Orderly (src : Source) (h₀ : Heap) (f : Interlude Ledger) : Prop :=
  ∀ (s : Process) (claimed : Nat → List Nat) (pending : Multiset Mapping), Process.Sound src h₀ s claimed pending →
    Process.Sound src h₀ (f s) claimed pending

/-- The process of a call is sound, and so are the interludes to come. -/
structure Call.Sound (src : Source) (h₀ : Heap) (c : Call Ledger) (claimed : Nat → List Nat)
    (pending : Multiset Mapping) : Prop where
  process : Process.Sound src h₀ c.process claimed pending
  decisions : ∀ d ∈ c.decisions, Interlude.Orderly src h₀ d.meanwhile
  growths : ∀ f ∈ c.growths, Interlude.Orderly src h₀ f

/-- An allocation of a number of bytes has ended in order: with the block entered, if there is one. -/
inductive Call.Allocated (src : Source) (h₀ : Heap) (bytes : Nat) (claimed : Nat → List Nat)
    (pending : Multiset Mapping) : Except Failure Nat × Call Ledger → Prop where
  | block {x : Nat} {c : Call Ledger}
    (h : Process.Sound src h₀ (c.process.enter ⟨src.poolOf bytes, x, bytes⟩) claimed pending) :
    Allocated src h₀ bytes claimed pending (.ok x, c)
  | nothing {e : AllocError} {c : Call Ledger} (h : Process.Sound src h₀ c.process claimed pending) :
    Allocated src h₀ bytes claimed pending (.error (.error e), c)
  | stalled {c : Call Ledger} (h : Process.Sound src h₀ c.process claimed pending) :
    Allocated src h₀ bytes claimed pending (.error .stalled, c)

variable {src : Source} {h₀ : Heap} {claimed claimed' : Nat → List Nat} {pending pending' : Multiset Mapping}

/-- The heap changes, and nothing else. -/
theorem Process.Sound.withHeap {s : Process} (hs : s.Sound src h₀ claimed pending) {h : Heap}
    (hh : h.Sound s.2.live claimed' pending') (ha : s.1.Alike h) :
    Process.Sound src h₀ (h, s.2) claimed' pending' :=
  ⟨⟨hh, hs.alike.trans ha, hs.routed⟩, hs.past⟩

/-- The heap changes, and a block is entered. -/
theorem Process.Sound.withBlock {s : Process} (hs : s.Sound src h₀ claimed pending) {h : Heap} {x bytes : Nat}
    (hh : h.Sound (⟨src.poolOf bytes, x, bytes⟩ ::ₘ (s.2.live : Multiset Block)) claimed' pending') (ha : s.1.Alike h) :
    Process.Sound src h₀ (Process.enter (h, s.2) ⟨src.poolOf bytes, x, bytes⟩) claimed' pending' := by
  refine ⟨⟨?_, hs.alike.trans ha, fun b hb => ?_⟩, hs.past⟩
  · rw [Process.enter, ← Multiset.coe_add, add_comm]
    exact hh
  · rcases List.mem_append.mp hb with hb | hb
    · exact hs.routed b hb
    · rw [List.mem_singleton.mp hb]

/-- The present moment is as good as the past ones. -/
theorem Process.Sound.record {s : Process} (hs : s.Sound src h₀ claimed pending) :
    s.record.Sound src h₀ claimed pending := by
  refine ⟨⟨hs.heap, hs.alike, hs.routed⟩, fun m hm => ?_⟩
  rcases List.mem_append.mp hm with hm | hm
  · exact hs.past m hm
  · rw [List.mem_singleton.mp hm]
    exact ⟨claimed, pending, hs.toFine⟩

/-- The settings of the pools are those of the start. -/
theorem Process.Sound.pool_alike {s t : Process} (hs : s.Sound src h₀ claimed pending)
    (ht : t.Sound src h₀ claimed' pending') (k : Nat) :
    (t.1.pool k).blockSize = (s.1.pool k).blockSize ∧ (t.1.pool k).maxArenas = (s.1.pool k).maxArenas :=
  ⟨(ht.alike.pool k).blockSize.trans (hs.alike.pool k).blockSize.symm,
    (ht.alike.pool k).maxArenas.trans (hs.alike.pool k).maxArenas.symm⟩

/-- A sound process, as terms for calls. Nobody takes pools away. -/
def Process.terms (src : Source) (h₀ : Heap) : Terms Ledger where
  Good s := Process.Sound src h₀ s
  blocks l := l.live
  others _ := 0
  Busy _ := True
  heap hs := by
    rw [add_zero]
    exact hs.heap
  settings _ hs ht := (hs.alike.pool _).symm.trans (ht.alike.pool _)
  step hs hh hp _ := by
    rw [add_zero] at hh
    exact hs.withHeap hh hp.toAlike

namespace Call.Sound

variable {c : Call Ledger} {k bytes : Nat}

theorem heap (hc : c.Sound src h₀ claimed pending) : c.heap.Sound c.rest.live claimed pending := hc.process.heap

theorem keeps (hc : c.Sound src h₀ claimed pending) : c.Keeps (Process.terms src h₀) claimed pending :=
  ⟨hc.process, hc.decisions, hc.growths⟩

theorem of_keeps (hc : c.Keeps (Process.terms src h₀) claimed pending) : c.Sound src h₀ claimed pending :=
  ⟨hc.good, hc.decisions, hc.growths⟩

/-- A step that changes the heap alone, and may log. -/
theorem withHeap (hc : c.Sound src h₀ claimed pending) {h : Heap} (hh : h.Sound c.rest.live claimed' pending')
    (ha : c.heap.Alike h) (events : Array Event) :
    Call.Sound src h₀ { c with heap := h, events } claimed' pending' :=
  ⟨hc.process.withHeap hh ha, hc.decisions, hc.growths⟩

/-- **Making an arena**: its mappings are pending, or nothing is. -/
theorem houseArena_spec (hc : c.Sound src h₀ claimed pending) (policy : Policy) {size : Nat} {g : Arena.Geometry}
    (hg : Arena.Geometry.ofBlockSize size = .ok g) :
    (∃ r c', c.houseArena policy size = (.ok r, c') ∧ c'.Sound src h₀ claimed (r.mappings + pending) ∧
      r.value.Sound g ∧ r.value.taken = ∅ ∧ r.value.blockSize = size) ∨
    (∃ e c', c.houseArena policy size = (.error (.error e), c') ∧ c'.Sound src h₀ claimed pending) := by
  rcases hc.keeps.houseArena_spec policy hg with ⟨r, c', h1, h2, h3, h4, h5, -⟩ | ⟨e, c', h1, h2⟩
  · exact .inl ⟨r, c', h1, of_keeps h2, h3, h4, h5⟩
  · exact .inr ⟨e, c', h1, of_keeps h2⟩

/-- **A claimed slot** is filled, or given back. -/
theorem fillSlot_spec {slot : Nat} (hc : c.Sound src h₀ (Function.update claimed k (slot :: claimed k)) pending) :
    (∃ c', c.fillSlot k slot = (.ok (), c') ∧ c'.Sound src h₀ claimed pending) ∨
    (∃ e c', c.fillSlot k slot = (.error (.error e), c') ∧ c'.Sound src h₀ claimed pending) := by
  rcases hc.keeps.fillSlot_spec trivial with ⟨c', h1, h2⟩ | ⟨e, c', h1, h2⟩
  · exact .inl ⟨c', h1, of_keeps h2⟩
  · exact .inr ⟨e, c', h1, of_keeps h2⟩

/-- The block with which an allocation ends is entered. -/
theorem allocated {k : Option Nat} (hk : src.poolOf bytes = k) {r : Except Failure Nat × Call Ledger}
    (h : Ended (Process.terms src h₀) k bytes claimed pending r) : Allocated src h₀ bytes claimed pending r := by
  subst hk
  cases h with
  | block hgood hproper _ hsound =>
    refine .block (Process.Sound.withBlock hgood ?_ hproper.toAlike)
    rwa [show pending + (Process.terms src h₀).others _ = pending from add_zero pending] at hsound
  | nothing hgood => exact .nothing hgood
  | stalled hgood => exact .stalled hgood

/-- **Allocation from a pool.** -/
theorem allocate (hc : c.Sound src h₀ claimed pending) (hk : src.poolOf bytes = some k) :
    Allocated src h₀ bytes claimed pending (c.allocate k) :=
  allocated hk (hc.keeps.allocate trivial bytes)

end Call.Sound

end BlockHeap
