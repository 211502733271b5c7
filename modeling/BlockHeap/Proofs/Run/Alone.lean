import BlockHeap.Proofs.Run.Undisturbed

/-!
# Calls that nobody interferes with

A call that is *alone* has no interludes at all. An allocation from a pool then takes a block from an existing arena; or
all blocks are held, and it finds the pool exhausted, or takes a block from a new arena, unless a mapping was refused
(`Call.Sound.allocate_alone`).
-/

namespace BlockHeap.Call

/-- Nobody interferes with the rest of the call. -/
structure Alone {ε : Type} (c : Call ε) : Prop where
  decisions : c.decisions = []
  growths : c.growths = []

variable {ε : Type}

theorem alone_alone (h : Heap) (rest : ε) : (alone h rest).Alone := ⟨rfl, rfl⟩

/-- Nobody disturbs a call that is alone. -/
theorem Alone.undisturbed {c : Call ε} (hc : c.Alone) : c.Undisturbed (· = ·) := by
  constructor
  · rw [hc.decisions]
    exact fun _ hd => nomatch hd
  · rw [hc.growths]
    exact fun _ hf => nomatch hf

/-- **An allocation when nobody interferes** takes a block from an existing arena; or else all blocks are held, and it
finds the pool exhausted, or takes a block from a new arena, or a refusal was logged. -/
theorem Sound.allocate_alone {src : Source} {h₀ : Heap} {claimed : Nat → List Nat} {pending : Multiset Mapping}
    {c : Call Ledger} (hc : c.Sound src h₀ claimed pending) (ha : c.Alone) (k : Nat) :
    (∃ x q, (c.heap.pool k).takeExisting (c.heap.pool k).count = (.ok (some x), q) ∧ (c.heap.pool k).Kept q ∧
      c.allocate k = (.ok x, { c with heap := c.heap.setPool k q })) ∨
    ((c.heap.pool k).held = (c.heap.pool k).grid ∧ (c.heap.pool k).maxArenas ≤ (c.heap.pool k).count ∧
      ∃ q c', (c.heap.pool k).Kept q ∧ c'.rest = c.rest ∧ c'.heap = c.heap.setPool k q ∧
        c.allocate k = (.error (.error (.poolExhausted (c.heap.pool k).blockSize (c.heap.pool k).count)), c')) ∨
    ((c.heap.pool k).held = (c.heap.pool k).grid ∧ (c.heap.pool k).count < (c.heap.pool k).maxArenas ∧
      ((∃ x c', c.allocate k = (.ok x, c') ∧ c'.rest = c.rest ∧ (c'.heap.pool k).holes = (c.heap.pool k).holes) ∨
        (∃ e c', c.allocate k = (.error (.error e), c') ∧ c'.Refused))) := by
  have hdecided := hc.allocate_undisturbed ha.undisturbed k
  generalize hr : c.allocate k = r at hdecided
  cases hdecided with
  | found htake hkept => exact .inl ⟨_, _, htake, hkept, rfl⟩
  | exhausted hfull hlimit hkept hrest hheap => exact .inr (.inl ⟨hfull, hlimit, _, _, hkept, hrest, hheap, rfl⟩)
  | grown hfull hlimit hrest hcount hholes => exact .inr (.inr ⟨hfull, hlimit, .inl ⟨_, _, rfl, hrest.symm, hholes⟩⟩)
  | refused hfull hlimit hlogged hrest hkept => exact .inr (.inr ⟨hfull, hlimit, .inr ⟨_, _, rfl, hlogged⟩⟩)

end BlockHeap.Call
