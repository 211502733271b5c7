import BlockHeap.Proofs.Heap.Ends
import BlockHeap.Proofs.Run.Separate

/-!
# The moments of a run follow one another

A source is a pool or a registry, and what it does with a regular heap leads the heap on (`Source.allocate_led`,
`Source.deallocate_led`). In a run all moments so far are regular and each comes before the later ones, with its arenas
in place ever after (`Process.Ordered`). Operations keep a process ordered, and are lawful interludes for the calls
around them (`runAll_lawful`); so the moments of each run from a fresh heap follow one another
(`Heap.Fresh.run_ordered`).
-/

namespace BlockHeap

variable {ε : Type} {P : Pact ε} {src : Source} {claimed : Nat → List Nat} {c : Call ε} {h : Heap} {rest : ε}
  {bytes : Nat}

/-! ## Sources -/

theorem Call.alone_fair (hgood : P.Good (h, rest)) : (Call.alone h rest).Fair P :=
  ⟨hgood, fun _ hd => (nomatch hd), fun _ hf => (nomatch hf)⟩

namespace Source

/-- A request is served by a pool, or gets a mapping of its own. -/
theorem allocate_cases (src : Source) (c : Call ε) (bytes : Nat) :
    (∃ k, src.poolOf bytes = some k ∧ src.allocate c bytes = c.allocate k) ∨
    (src.poolOf bytes = none ∧ src.allocate c bytes = c.mapOversized bytes) := by
  cases hk : src.poolOf bytes with
  | some k => exact .inl ⟨k, rfl, allocate_of_poolOf hk c⟩
  | none =>
    cases src with
    | pool k => cases hk
    | registry r =>
      refine .inr ⟨rfl, ?_⟩
      rw [registry_allocate, hk]

/-- A block goes back to a pool, or its mapping is given back. -/
theorem deallocate_cases (src : Source) (c : Call ε) (address bytes : Nat) :
    (∃ k, src.poolOf bytes = some k ∧ src.deallocate c address bytes = c.deallocate k address) ∨
    (src.poolOf bytes = none ∧ src.deallocate c address bytes = c.unmapOversized address bytes) := by
  cases hk : src.poolOf bytes with
  | some k => exact .inl ⟨k, rfl, deallocate_of_poolOf hk c address⟩
  | none =>
    cases src with
    | pool k => cases hk
    | registry r =>
      refine .inr ⟨rfl, ?_⟩
      rw [registry_deallocate, hk]

/-- **Allocation** leads a regular heap on. -/
theorem allocate_led (hc : c.Fair P) (hr : c.heap.Regular claimed) (bytes : Nat) :
    Call.Led P claimed c (src.allocate c bytes).2 := by
  rcases src.allocate_cases c bytes with ⟨k, -, halloc⟩ | ⟨-, halloc⟩
  · rw [halloc]
    exact (hc.onCourse hr k).allocate_ends.led (hc.onCourse hr k)
  · rw [halloc]
    exact ((hc.onCourse hr 0).mapOversized_path bytes).1.led (hc.onCourse hr 0)

/-- **Deallocation** of any address leads a regular heap on. -/
theorem deallocate_led (hc : c.Fair P) (hr : c.heap.Regular claimed) (address bytes : Nat) :
    Call.Led P claimed c (src.deallocate c address bytes).2 := by
  rcases src.deallocate_cases c address bytes with ⟨k, -, hdealloc⟩ | ⟨-, hdealloc⟩
  · rw [hdealloc]
    exact Call.deallocate_led hc.good hr k address
  · rw [hdealloc]
    exact (Call.unmapOversized_path c address bytes).led (hc.onCourse hr 0)

end Source

theorem Pact.Lawful.comp {f g : Interlude ε} (hg : P.Lawful g) (hf : P.Lawful f) : P.Lawful fun s => g (f s) := by
  intro s claimed hr hs
  obtain ⟨hl, hs'⟩ := hf s claimed hr hs
  obtain ⟨hl', hs''⟩ := hg (f s) claimed (hl.regular hr) hs'
  exact ⟨hl.trans hl', hs''⟩

/-! ## Moments -/

namespace Process

/-- All moments so far are regular and follow one another. -/
structure Ordered (s : Process) : Prop where
  regular : ∀ m ∈ s.2.past, ∃ claimed, m.heap.Regular claimed
  onward : ∀ m ∈ s.2.past, m.heap.Onward s.1
  pairwise : s.2.past.Pairwise fun m n => m.heap.Onward n.heap

/-- The moments so far are in order. -/
def order : Pact Ledger where
  Good := Ordered
  step hs hr hl :=
    ⟨hs.regular, fun m hm => (hs.onward m hm).trans (hl.onward hr), hs.pairwise⟩

/-- The present moment follows the past ones. -/
theorem record_lawful : order.Lawful record := by
  intro s claimed hr hs
  refine ⟨.refl _ _, fun m hm => ?_, fun m hm => ?_, ?_⟩
  · rcases List.mem_append.mp hm with hm | hm
    · exact hs.regular m hm
    · rw [List.mem_singleton.mp hm]
      exact ⟨claimed, hr⟩
  · rcases List.mem_append.mp hm with hm | hm
    · exact hs.onward m hm
    · rw [List.mem_singleton.mp hm]
      exact .refl _
  · refine List.pairwise_append.mpr ⟨hs.pairwise, List.pairwise_singleton _ _, fun m hm n hn => ?_⟩
    rw [List.mem_singleton.mp hn]
    exact hs.onward m hm

/-- Entering a block changes neither the heap nor the moments so far. -/
theorem settle_led {c : Call Ledger} {r : Except Failure Nat × Call Ledger} (hr : Call.Led order claimed c r.2) :
    c.heap.Leads claimed (settle src bytes r).1 claimed ∧ order.Good (settle src bytes r) := by
  obtain ⟨hl, hgood⟩ := hr
  unfold settle
  split
  · exact ⟨hl, hgood.regular, hgood.onward, hgood.pairwise⟩
  · exact ⟨hl, hgood⟩

theorem giveBack_lawful (i bytes : Nat) : order.Lawful fun s => giveBack src s i bytes := by
  intro s claimed hr hs
  dsimp only
  unfold giveBack
  split
  · exact ⟨.refl _ _, hs⟩
  · rename_i b _
    split
    · obtain ⟨hl, hgood⟩ := @Source.deallocate_led _ order src _ _ (Call.alone_fair hs) hr b.address bytes
      split
      · rename_i d hd
        rw [hd] at hl hgood
        exact ⟨hl, hgood.regular, hgood.onward, hgood.pairwise⟩
      · rename_i d hd
        rw [hd] at hl hgood
        exact ⟨hl, hgood⟩
    · exact ⟨.refl _ _, hs⟩

end Process

/-! ## Runs -/

-- one induction over operations, answers and lists of both
mutual

theorem Op.run_lawful (op : Op) : Process.order.Lawful (op.run src) := by
  cases op with
  | allocate bytes maps grown =>
    intro s claimed hr hs
    rw [Op.run]
    have hfair : Call.Fair Process.order ⟨s.1, s.2, decisions src maps, interludes src grown, #[]⟩ :=
      ⟨hs, decisions_lawful maps, interludes_lawful grown⟩
    obtain ⟨hl, hgood⟩ := @Process.settle_led src claimed bytes _ _ (Source.allocate_led hfair hr bytes)
    obtain ⟨hl', hgood'⟩ := Process.record_lawful _ claimed (hl.regular hr) hgood
    exact ⟨hl.trans hl', hgood'⟩
  | deallocate i bytes =>
    intro s claimed hr hs
    rw [Op.run]
    exact Process.record_lawful.comp (Process.giveBack_lawful i bytes) s claimed hr hs

/-- **Runs are lawful**: they lead the heap on, and keep the moments in order. -/
theorem runAll_lawful (ops : List Op) : Process.order.Lawful (runAll src ops) := by
  intro s claimed hr hs
  cases ops with
  | nil =>
    rw [runAll]
    exact ⟨.refl _ _, hs⟩
  | cons op ops =>
    rw [runAll]
    exact (runAll_lawful ops).comp op.run_lawful s claimed hr hs

theorem Answer.decision_lawful (a : Answer) : Process.order.Lawful (a.decision src).meanwhile := by
  cases a with
  | mk meanwhile refuse =>
    rw [Answer.decision]
    exact (runAll_lawful meanwhile).comp Process.record_lawful

theorem decisions_lawful (as : List Answer) : ∀ d ∈ decisions src as, Process.order.Lawful d.meanwhile := by
  cases as with
  | nil =>
    rw [decisions]
    intro d hd
    cases hd
  | cons a as =>
    rw [decisions]
    intro d hd
    rcases List.mem_cons.mp hd with rfl | hd
    · exact a.decision_lawful
    · exact decisions_lawful as d hd

theorem interludes_lawful (grown : List (List Op)) : ∀ f ∈ interludes src grown, Process.order.Lawful f := by
  cases grown with
  | nil =>
    rw [interludes]
    intro f hf
    cases hf
  | cons ops rest =>
    rw [interludes]
    intro f hf
    rcases List.mem_cons.mp hf with rfl | hf
    · exact (runAll_lawful ops).comp Process.record_lawful
    · exact interludes_lawful rest f hf

end

namespace Heap.Fresh

/-- A fresh heap is regular, with no slots claimed. -/
theorem regular (h' : h.Fresh) : h.Regular fun _ => [] := by
  refine ⟨h'.os, fun k => ?_⟩
  rcases Nat.lt_or_ge k h.pools.size with hk | hk
  · obtain ⟨s, policy, hs, hbuild⟩ := h'.pool_built hk
    obtain ⟨size, n, g, hp, hg⟩ := hs.build hbuild
    exact Pool.Growths.regular_of_create hg hp
  · rw [Heap.pool_of_le hk]
    exact .of_empty rfl rfl (fun i => by simp [Pool.vacant, Pool.slot?]) fun hpos => absurd hpos (Nat.lt_irrefl 0)

/-- **The moments of a run follow one another.** -/
theorem run_ordered (h' : h.Fresh) (src : Source) (ops : List Op) :
    (runAll src ops (Process.start h)).record.Ordered := by
  have hstart : Process.order.Good (Process.start h) :=
    ⟨fun _ hm => (nomatch hm), fun _ hm => (nomatch hm), .nil⟩
  exact (Process.record_lawful.comp (runAll_lawful ops) _ _ h'.regular hstart).2

end Heap.Fresh

end BlockHeap
