import BlockHeap.Proofs.Heap.Apart
import BlockHeap.Proofs.Run.Start

/-!
# No two blocks in use overlap

At each moment of each run on a new registry the blocks in use are `Separate`: no two of them share an address, each has
the room that was asked for, lies among the blocks of an arena or in a mapping of its own, is aligned, and keeps away
from the words of the free maps and from the handles of mappings (`run_separate`).
-/

namespace BlockHeap

/-- The moments of a process: those recorded and the present one. -/
def Process.moments (s : Process) : List Moment := s.record.2.past

/-- The blocks in use do not meet each other, nor what the allocator keeps for itself, and are as they should be. -/
structure Moment.Separate (m : Moment) : Prop where
  disjoint : m.live.Pairwise fun b c => (m.heap.span b).Disjoint (m.heap.span c)
  room : ∀ b ∈ m.live, b.bytes ≤ (m.heap.span b).len
  pooled : ∀ b ∈ m.live, ∀ k, b.pool = some k → (m.heap.pool k).blockSize = SizeClass.fitting b.bytes ∧
    ∃ i r, i < (m.heap.pool k).count ∧ (m.heap.pool k).slot? i = some r ∧ r.value.base ≤ b.address ∧
      (m.heap.span b).stop ≤ r.value.base + r.value.usable
  oversized : ∀ b ∈ m.live, b.pool = none → SizeClass.fitting b.bytes = SizeClass.unclassed ∧
    b.mapping ∈ m.heap.os.space.live ∧ (m.heap.span b).stop ≤ b.mapping.stop ∧
    ∀ k i r, (m.heap.pool k).slot? i = some r → r.value.region.Disjoint b.mapping
  words : ∀ b ∈ m.live, ∀ k i r, (m.heap.pool k).slot? i = some r →
    ∃ g, Arena.Geometry.ofBlockSize r.value.blockSize = .ok g ∧
      (m.heap.span b).Disjoint ⟨r.value.base + g.mapOffset, g.shape.bytes⟩
  handles : ∀ b ∈ m.live, ∀ c ∈ m.live, c.pool = none →
    ∃ offset, Oversized.handleOffset? c.bytes = some offset ∧
      (m.heap.span b).Disjoint ⟨c.address + offset, Oversized.handleBytes⟩ ∧
      m.heap.memory.read? (c.address + offset) = some (.handle c.mapping)
  aligned : ∀ b ∈ m.live, (match b.pool with
    | some k => min (m.heap.pool k).blockSize 4096
    | none => 4096) ∣ b.address

/-- The size class of a block from a pool. -/
theorem Process.Fine.blockSize_eq {os : Os} {policy : Policy} {h : Heap} {live : List Block}
    {claimed : Nat → List Nat} {pending : Multiset Mapping}
    (hf : Process.Fine (.registry ⟨policy, 0⟩) (Registry.startHeap os policy) h live claimed pending) {b : Block}
    (hb : b ∈ live) {k : Nat} (hk : b.pool = some k) :
    (h.pool k).blockSize = SizeClass.fitting b.bytes ∧ b.bytes ≤ SizeClass.fitting b.bytes := by
  obtain ⟨h1, h2⟩ := Registry.blockSize_eq os policy ((hf.routed b hb).symm.trans hk)
  exact ⟨(hf.alike.pool k).blockSize.trans h1, h2⟩

/-- **The blocks in use are separate** whenever the process of a registry is in order. -/
theorem Process.Fine.separate {os : Os} {policy : Policy} {h : Heap} {live : List Block}
    {claimed : Nat → List Nat} {pending : Multiset Mapping}
    (hf : Process.Fine (.registry ⟨policy, 0⟩) (Registry.startHeap os policy) h live claimed pending) :
    Moment.Separate ⟨h, live⟩ where
  disjoint := by
    rw [List.pairwise_iff_forall_sublist]
    intro b c hsub
    exact hf.heap.disjoint_of_pair (Multiset.coe_le.mpr hsub.subperm)
  room b hb := by
    cases hp : b.pool with
    | none => simp [Heap.span, hp]
    | some k =>
      obtain ⟨h1, h2⟩ := hf.blockSize_eq hb hp
      simp only [Heap.span, hp, h1]
      exact h2
  pooled b hb k hk := ⟨(hf.blockSize_eq hb hk).1, hf.heap.exists_arena hb hk⟩
  oversized b hb hp := by
    refine ⟨Source.unclassed_of_poolOf ((hf.routed b hb).symm.trans hp),
      hf.heap.live_of_mem (.inr (Heap.mapping_mem_own hb hp)), (hf.heap.span_within hb hp).2, fun k i r hr => ?_⟩
    exact hf.heap.disjoint_mapping_region hb hp hr
  words b hb k i r hr := hf.heap.disjoint_words hb hr
  handles b hb c hc hp := hf.heap.disjoint_handle hb hc hp
  aligned b hb := by
    cases hp : b.pool with
    | none => exact hf.heap.aligned_page hb hp
    | some k => exact hf.heap.aligned hb hp

/-- **No two blocks in use overlap**, at any moment of any run on a new registry. -/
theorem run_separate {os : Os} (hos : os.Sound) (policy : Policy) (ops : List Op) :
    ∃ r h, Registry.create (Heap.onOs os) policy = (.ok r, h) ∧
      ∀ m ∈ (runAll (.registry r) ops (Process.start h)).moments, m.Separate := by
  refine ⟨_, _, Registry.create_eq os policy, fun m hm => ?_⟩
  have hsound := ((Registry.create_fresh hos policy).run_sound (.registry ⟨policy, 0⟩) ops).record
  obtain ⟨claimed, pending, hf⟩ := hsound.past m hm
  exact hf.separate

/-- While the first arena of a pool is mapped, others allocate a mapping and fail to grow another pool; when the pool
has grown, others take the first block. Blocks of the second pool are given back with another byte count of their
class. -/
def nestedRun : List Op :=
  [.allocate 100 [.mk [.allocate 5000000 [] [], .allocate 8 [.mk [] true] []] false] [[.allocate 100 [] []]],
    .deallocate 1 70, .allocate 65 [] []]

theorem run_separate_nested : Os.standard.Sound ∧
    ∃ r h, Registry.create (Heap.onOs .standard) .shared = (.ok r, h) ∧
      (∀ m ∈ (runAll (.registry r) nestedRun (Process.start h)).moments, m.Separate) ∧
      ((runAll (.registry r) nestedRun (Process.start h)).moments.map (·.live.length)) =
        [0, 1, 1, 1, 1, 2, 3, 2, 3, 3] := by
  obtain ⟨r, h, hcreate, hseparate⟩ := run_separate Os.standard_sound .shared nestedRun
  refine ⟨Os.standard_sound, r, h, hcreate, hseparate, ?_⟩
  rw [Registry.create_eq] at hcreate
  cases hcreate
  decide +kernel

end BlockHeap
