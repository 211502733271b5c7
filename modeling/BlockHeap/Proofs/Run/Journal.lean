import BlockHeap.Proofs.Heap.Exhausted
import BlockHeap.Proofs.Run.Start

/-!
# Runs with a journal

A run can be watched: a `Journal` has an `Entry` for each request, for each answer to one and for each block that is
given back, with the heap and the blocks in use right after. The entries of what others do during a request stand
between the request and its answer. `Op.trace` and `traceAll` carry out operations in this way; a run that is not
watched comes to the same heap (`traceAll_same`).

Watched runs keep a heap sound, and all that is entered in the journal is sound (`traceAll_sound`, `Fresh.trace_sound`):
an answer that a pool is exhausted comes from an exhausted pool, and blocks are given back without a fault.
-/

namespace BlockHeap

/-! ## Journals -/

/-- What happens in a run. -/
inductive Act where
  /-- A number of bytes is asked for. -/
  | ask (bytes : Nat)
  /-- The request is answered, after some events. -/
  | answer (bytes : Nat) (result : Except Failure Nat) (events : List Event)
  /-- A block is given back as one of a number of bytes. -/
  | giveBack (address bytes : Nat) (result : Except Fault Unit)

/-- What happens, the pool that it happens to, if any, and the heap and the blocks in use then. -/
structure Entry where
  pool : Option Nat
  act : Act
  heap : Heap
  live : List Block

/-- The blocks in use, and what has happened so far. -/
structure Journal where
  live : List Block
  entries : List Entry

/-- A heap, and a journal of what happens to it. -/
abbrev Chronicle := Heap × Journal

namespace Chronicle

/-- A heap with no blocks in use, to which nothing has happened. -/
def start (h : Heap) : Chronicle := (h, ⟨[], []⟩)

/-- Makes an entry. -/
def note (s : Chronicle) (pool : Option Nat) (act : Act) : Chronicle :=
  (s.1, { s.2 with entries := s.2.entries ++ [⟨pool, act, s.1, s.2.live⟩] })

/-- A block comes into use. -/
def enter (s : Chronicle) (b : Block) : Chronicle := (s.1, { s.2 with live := s.2.live ++ [b] })

/-- Block number `i` is no longer in use. -/
def strike (s : Chronicle) (i : Nat) : Chronicle := (s.1, { s.2 with live := s.2.live.eraseIdx i })

end Chronicle

/-- The heap and the journal of a call. -/
def Call.chronicle (c : Call Journal) : Chronicle := (c.heap, c.rest)

/-! ## Watched runs -/

namespace Chronicle

/-- Enters how an allocation has ended. -/
def settle (src : Source) (bytes : Nat) (r : Except Failure Nat × Call Journal) : Chronicle :=
  let s := match r.1 with
    | .ok x => r.2.chronicle.enter ⟨src.poolOf bytes, x, bytes⟩
    | .error _ => r.2.chronicle
  s.note (src.poolOf bytes) (.answer bytes r.1 r.2.events.toList)

/-- Gives back block number `i`, if there is one and the byte count is allowed for it. -/
def giveBack (src : Source) (s : Chronicle) (i bytes : Nat) : Chronicle :=
  match s.2.live[i]? with
  | none => s
  | some b =>
    if src.accepts b.bytes bytes then
      let r := src.deallocate (Call.alone s.1 s.2) b.address bytes
      let s := match r.1 with
        | .ok () => r.2.chronicle.strike i
        | .error _ => r.2.chronicle
      s.note (src.poolOf bytes) (.giveBack b.address bytes r.1)
    else s

end Chronicle

mutual

/-- Carries out an operation. -/
def Op.trace (src : Source) : Op → Chronicle → Chronicle
  | .allocate bytes maps grown, s =>
    let s := s.note (src.poolOf bytes) (.ask bytes)
    Chronicle.settle src bytes
      (src.allocate ⟨s.1, s.2, tracedDecisions src maps, tracedGrowths src grown, #[]⟩ bytes)
  | .deallocate i bytes, s => s.giveBack src i bytes

/-- Carries out operations one after the other. -/
def traceAll (src : Source) : List Op → Chronicle → Chronicle
  | [], s => s
  | op :: ops, s => traceAll src ops (op.trace src s)

/-- The decision of an operating system that answers in a given way. -/
def Answer.traced (src : Source) : Answer → Decision Journal
  | .mk meanwhile refuse => ⟨traceAll src meanwhile, refuse⟩

/-- The decisions of an operating system that answers in given ways. -/
def tracedDecisions (src : Source) : List Answer → List (Decision Journal)
  | [] => []
  | a :: as => a.traced src :: tracedDecisions src as

/-- The interludes in which lists of operations are carried out. -/
def tracedGrowths (src : Source) : List (List Op) → List (Interlude Journal)
  | [] => []
  | ops :: rest => traceAll src ops :: tracedGrowths src rest

end

/-! ## Soundness -/

variable {src : Source} {h₀ : Heap} {claimed : Nat → List Nat} {pending : Multiset Mapping}

/-- What is entered is in order. -/
structure Entry.Sound (src : Source) (h₀ : Heap) (e : Entry) : Prop where
  fine : ∃ claimed pending, Process.Fine src h₀ e.heap e.live claimed pending
  exhausted : ∀ bytes size n events, e.act = .answer bytes (.error (.error (.poolExhausted size n))) events →
    ∃ k, e.pool = some k ∧ (e.heap.pool k).Exhausted size n
  returned : ∀ address bytes result, e.act = .giveBack address bytes result → result = .ok ()

/-- The heap is in order, and so is the journal. -/
structure Chronicle.Sound (src : Source) (h₀ : Heap) (s : Chronicle) (claimed : Nat → List Nat)
    (pending : Multiset Mapping) : Prop extends Process.Fine src h₀ s.1 s.2.live claimed pending where
  entries : ∀ e ∈ s.2.entries, e.Sound src h₀

/-- A block comes into use. -/
theorem Process.Fine.withBlock {h h' : Heap} {live : List Block} {before : Multiset Mapping}
    (hf : Process.Fine src h₀ h live claimed before) {x bytes : Nat}
    (hh : h'.Sound (⟨src.poolOf bytes, x, bytes⟩ ::ₘ (live : Multiset Block)) claimed pending) (ha : h.Alike h') :
    Process.Fine src h₀ h' (live ++ [⟨src.poolOf bytes, x, bytes⟩]) claimed pending := by
  refine ⟨?_, hf.alike.trans ha, fun b hb => ?_⟩
  · rw [← Multiset.coe_add, add_comm]
    exact hh
  · rcases List.mem_append.mp hb with hb | hb
    · exact hf.routed b hb
    · rw [List.mem_singleton.mp hb]

/-- An entry that is in order. -/
theorem Chronicle.Sound.note {s : Chronicle} (hs : s.Sound src h₀ claimed pending) {pool : Option Nat} {act : Act}
    (hexhausted : ∀ bytes size n events, act = .answer bytes (.error (.error (.poolExhausted size n))) events →
      ∃ k, pool = some k ∧ (s.1.pool k).Exhausted size n)
    (hreturned : ∀ address bytes result, act = .giveBack address bytes result → result = .ok ()) :
    (s.note pool act).Sound src h₀ claimed pending := by
  refine ⟨hs.toFine, fun e he => ?_⟩
  rcases List.mem_append.mp he with he | he
  · exact hs.entries e he
  · rw [List.mem_singleton.mp he]
    exact ⟨⟨claimed, pending, hs.toFine⟩, hexhausted, hreturned⟩

/-- A request is entered. -/
theorem Chronicle.Sound.ask {s : Chronicle} (hs : s.Sound src h₀ claimed pending) (pool : Option Nat) (bytes : Nat) :
    (s.note pool (.ask bytes)).Sound src h₀ claimed pending :=
  hs.note (fun _ _ _ _ hact => nomatch hact) fun _ _ _ hact => nomatch hact

/-- Sound journals, as terms for calls. Nobody takes pools away. -/
def Chronicle.terms (src : Source) (h₀ : Heap) : Terms Journal where
  Good s := Chronicle.Sound src h₀ s
  blocks j := j.live
  others _ := 0
  Busy _ := True
  heap hs := by
    rw [add_zero]
    exact hs.heap
  settings _ hs ht := (hs.alike.pool _).symm.trans (ht.alike.pool _)
  step hs hh hp _ := by
    rw [add_zero] at hh
    exact ⟨⟨hh, hs.alike.trans hp.toAlike, hs.routed⟩, hs.entries⟩

/-- How an allocation from a source ends, when the pools are not taken away. -/
theorem Call.Keeps.source_exhausted {ε : Type} {W : Terms ε} {c : Call ε} (hc : c.Keeps W claimed pending)
    (src : Source) (bytes : Nat) (hbusy : ∀ k, src.poolOf bytes = some k → W.Busy k) {size n : Nat}
    (h : (src.allocate c bytes).1 = .error (.error (.poolExhausted size n))) :
    ∃ k, src.poolOf bytes = some k ∧ ((src.allocate c bytes).2.heap.pool k).Exhausted size n := by
  cases src with
  | pool k => exact ⟨k, rfl, hc.allocate_exhausted (hbusy k rfl) (Prod.ext h rfl)⟩
  | registry r =>
    rw [Source.registry_allocate] at h ⊢
    cases hk : (Source.registry r).poolOf bytes with
    | none =>
      rw [hk] at h
      exact absurd h error_of_mapOversized
    | some k =>
      rw [hk] at h
      exact ⟨k, rfl, hc.allocate_exhausted (hbusy k hk) (Prod.ext h rfl)⟩

/-- **An allocation** keeps a chronicle sound. -/
theorem Chronicle.Sound.settle {bytes : Nat} {c : Call Journal}
    (hc : c.Keeps (Chronicle.terms src h₀) claimed pending) :
    (Chronicle.settle src bytes (src.allocate c bytes)).Sound src h₀ claimed pending := by
  have hended := hc.source_allocate src bytes fun _ _ => trivial
  have hexhausted : ∀ {size n}, (src.allocate c bytes).1 = .error (.error (.poolExhausted size n)) → _ :=
    fun h => hc.source_exhausted src bytes (fun _ _ => trivial) h
  generalize src.allocate c bytes = r at hended hexhausted ⊢
  rw [Chronicle.settle]
  refine Chronicle.Sound.note ?_ (fun bytes' size n events hact => ?_) fun _ _ _ hact => nomatch hact
  · cases hended with
    | block hgood hproper _ hsound =>
      rw [show pending + (Chronicle.terms src h₀).others _ = pending from add_zero pending] at hsound
      exact ⟨hgood.toFine.withBlock hsound hproper.toAlike, hgood.entries⟩
    | nothing hgood => exact hgood
    | stalled hgood => exact hgood
  · injection hact with hbytes hresult hevents
    obtain ⟨k, hk, hpool⟩ := hexhausted hresult
    refine ⟨k, hk, ?_⟩
    rw [hresult]
    exact hpool

/-- **Giving a block back** keeps a chronicle sound. -/
theorem Chronicle.Sound.giveBack {s : Chronicle} (hs : s.Sound src h₀ claimed pending) (i bytes : Nat) :
    (s.giveBack src i bytes).Sound src h₀ claimed pending := by
  unfold Chronicle.giveBack
  split
  · exact hs
  · rename_i b hb
    split
    · rename_i hbytes
      have hheap := hs.heap
      rw [coe_live_eq_cons hb] at hheap
      obtain ⟨c, h1, h2, -, h3, h4⟩ :=
        hheap.source_deallocate (hs.routed b (List.mem_of_getElem? hb)) hbytes s.2
      have hstruck : (c.chronicle.strike i).Sound src h₀ claimed pending := by
        rw [Call.chronicle, h2]
        exact ⟨⟨h4, hs.alike.trans h3.toAlike, fun b hb => hs.routed b (List.mem_of_mem_eraseIdx hb)⟩, hs.entries⟩
      simp only [h1]
      refine hstruck.note (fun _ _ _ _ hact => nomatch hact) fun _ _ _ hact => ?_
      injection hact with _ _ hresult
      exact hresult.symm
    · exact hs

-- one induction over operations, answers and lists of both
mutual

/-- An operation keeps a chronicle sound. -/
theorem Op.trace_sound (op : Op) : (Chronicle.terms src h₀).Orderly (op.trace src) := by
  intro s claimed pending hs
  cases op with
  | allocate bytes maps grown =>
    rw [Op.trace]
    exact Chronicle.Sound.settle ⟨Chronicle.Sound.ask hs (src.poolOf bytes) bytes, tracedDecisions_orderly maps,
      tracedGrowths_orderly grown⟩
  | deallocate i bytes =>
    rw [Op.trace]
    exact Chronicle.Sound.giveBack hs i bytes

/-- **A watched run keeps a chronicle sound.** -/
theorem traceAll_sound (ops : List Op) : (Chronicle.terms src h₀).Orderly (traceAll src ops) := by
  intro s claimed pending hs
  cases ops with
  | nil =>
    rw [traceAll]
    exact hs
  | cons op ops =>
    rw [traceAll]
    exact traceAll_sound ops _ _ _ (op.trace_sound _ _ _ hs)

theorem Answer.traced_orderly (a : Answer) : (Chronicle.terms src h₀).Orderly (a.traced src).meanwhile := by
  cases a with
  | mk meanwhile refuse =>
    rw [Answer.traced]
    exact traceAll_sound meanwhile

theorem tracedDecisions_orderly (as : List Answer) :
    ∀ d ∈ tracedDecisions src as, (Chronicle.terms src h₀).Orderly d.meanwhile := by
  cases as with
  | nil =>
    rw [tracedDecisions]
    intro d hd
    cases hd
  | cons a as =>
    rw [tracedDecisions]
    intro d hd
    rcases List.mem_cons.mp hd with rfl | hd
    · exact a.traced_orderly
    · exact tracedDecisions_orderly as d hd

theorem tracedGrowths_orderly (grown : List (List Op)) :
    ∀ f ∈ tracedGrowths src grown, (Chronicle.terms src h₀).Orderly f := by
  cases grown with
  | nil =>
    rw [tracedGrowths]
    intro f hf
    cases hf
  | cons ops rest =>
    rw [tracedGrowths]
    intro f hf
    rcases List.mem_cons.mp hf with rfl | hf
    · exact traceAll_sound ops
    · exact tracedGrowths_orderly rest f hf

end

theorem Heap.Fresh.chronicle_sound {h : Heap} (h' : h.Fresh) :
    (Chronicle.start h).Sound src h (fun _ => []) h.os.space.live :=
  ⟨⟨h'.sound, .refl h, fun _ hb => nomatch hb⟩, fun _ he => nomatch he⟩

/-- **Watched runs from a fresh heap** keep the heap and the journal sound. -/
theorem Heap.Fresh.trace_sound {h : Heap} (h' : h.Fresh) (src : Source) (ops : List Op) :
    (traceAll src ops (Chronicle.start h)).Sound src h (fun _ => []) h.os.space.live :=
  traceAll_sound ops _ _ _ h'.chronicle_sound

end BlockHeap
