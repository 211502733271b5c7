import BlockHeap.Proofs.Run.Journal
import BlockHeap.Proofs.Run.Saturate

/-!
# What it means that a pool is exhausted

A request is answered with an exhausted pool only when every block of every arena of the pool is in use and no slot is
left (`run_exhausted`), also when the request is made while others are in progress. The number in the answer is that of
the slots, not that of the arenas: it counts the slots in which there is no arena, because a growth of another request
has not put it there yet, or has failed and could not give the slot back (`exhausted_counts_slots`).
-/

namespace BlockHeap

/-- **An exhausted pool is full.** Whenever a request of a run is answered with an exhausted pool, the number in the
answer is the number of arenas that the pool may have, this is the number of arenas that it has and of the slots without
one, and every block of every arena is in use. -/
theorem run_exhausted {h₀ : Heap} (hfresh : h₀.Fresh) (src : Source) (ops : List Op) {e : Entry}
    (he : e ∈ (traceAll src ops (Chronicle.start h₀)).2.entries) {bytes size n : Nat} {events : List Event}
    (hact : e.act = .answer bytes (.error (.error (.poolExhausted size n))) events) :
    ∃ k, e.pool = some k ∧ size = (h₀.pool k).blockSize ∧ n = (h₀.pool k).maxArenas ∧
      (e.heap.pool k).published.length + (e.heap.pool k).holes = n ∧
      ∀ g, Arena.Geometry.ofBlockSize size = .ok g → ∀ r ∈ (e.heap.pool k).published, ∀ i < g.blockCount,
        ∃ b ∈ e.live, b.pool = some k ∧ b.address = r.value.base + i * g.blockSize := by
  have hsound := (hfresh.trace_sound src ops).entries e he
  obtain ⟨claimed, pending, hfine⟩ := hsound.fine
  obtain ⟨k, hk, hexhausted⟩ := hsound.exhausted bytes size n events hact
  have halike := hfine.alike.pool k
  refine ⟨k, hk, hexhausted.blockSize.symm.trans halike.blockSize, hexhausted.maxArenas.symm.trans halike.maxArenas,
    (hfine.heap.pools k).slots.card_arenas.trans hexhausted.count, fun g hg r hr i hi => ?_⟩
  exact hfine.heap.exists_block_of_full (hexhausted.blockSize ▸ hg) hexhausted.full hr hi

/-- The exhausted pool that an entry reports. -/
def Entry.reported? (e : Entry) : Option (Nat × Nat × Nat) :=
  match e.act with
  | .answer bytes (.error (.error (.poolExhausted size n))) _ => some (bytes, size, n)
  | _ => none

theorem Entry.act_of_reported {e : Entry} {bytes size n : Nat} (h : e.reported? = some (bytes, size, n)) :
    ∃ events, e.act = .answer bytes (.error (.error (.poolExhausted size n))) events := by
  unfold reported? at h
  split at h
  · rename_i bytes' size' n' events hact
    simp only [Option.some.injEq, Prod.mk.injEq] at h
    obtain ⟨rfl, rfl, rfl⟩ := h
    exact ⟨events, hact⟩
  · cases h

/-- A pool loses one of its three slots, and all blocks of the two arenas that it can have are taken: the next request
is told that three arenas are full. -/
theorem overtakenRun_reports : ∃ e ∈ (traceAll (.pool 0) (overtakenRun ++ List.replicate 30 (.allocate 1 [] []))
      (Chronicle.start ((Heap.onOs .standard).addPools [threeArenas]))).2.entries,
    e.reported? = some (1, SizeClass.greatest, 3) ∧ (e.heap.pool 0).published.length = 2 ∧
      (e.heap.pool 0).holes = 1 ∧ e.live.length = 30 := by
  have hlast : ((traceAll (.pool 0) (overtakenRun ++ List.replicate 30 (.allocate 1 [] []))
        (Chronicle.start ((Heap.onOs .standard).addPools [threeArenas]))).2.entries.getLast?.map fun e =>
      (e.reported?, (e.heap.pool 0).published.length, (e.heap.pool 0).holes, e.live.length)) =
      some (some (1, SizeClass.greatest, 3), 2, 1, 30) := by
    decide +kernel
  obtain ⟨e, he, heq⟩ := Option.map_eq_some_iff.mp hlast
  simp only [Prod.mk.injEq] at heq
  exact ⟨e, List.mem_of_getLast? he, heq⟩

theorem run_exhausted_overtaken : ((Heap.onOs .standard).addPools [threeArenas]).Fresh ∧
    ∃ e ∈ (traceAll (.pool 0) (overtakenRun ++ List.replicate 30 (.allocate 1 [] []))
      (Chronicle.start ((Heap.onOs .standard).addPools [threeArenas]))).2.entries,
      (∃ events, e.act = .answer 1 (.error (.error (.poolExhausted SizeClass.greatest 3))) events) ∧
      e.live.length = 30 ∧
      ∃ k, e.pool = some k ∧ (e.heap.pool k).published.length + (e.heap.pool k).holes = 3 ∧
        ∀ r ∈ (e.heap.pool k).published, ∀ i < 15,
          ∃ b ∈ e.live, b.address = r.value.base + i * SizeClass.greatest := by
  obtain ⟨e, he, hreported, -, -, hlive⟩ := overtakenRun_reports
  obtain ⟨events, hact⟩ := Entry.act_of_reported hreported
  obtain ⟨k, hk, -, -, hslots, hfull⟩ := run_exhausted threeArenas_fresh _ _ he hact
  obtain ⟨g, hg⟩ := Arena.Geometry.exists_ofBlockSize (show Size.isPowerOfTwo SizeClass.greatest = true by decide)
    (by decide)
  refine ⟨threeArenas_fresh, e, he, ⟨events, hact⟩, hlive, k, hk, hslots, fun r hr i hi => ?_⟩
  obtain ⟨b, hb, -, haddress⟩ := hfull g hg r hr i ((blockCount_greatest hg).symm ▸ hi)
  exact ⟨b, hb, (Arena.Geometry.ofBlockSize_fits hg).1 ▸ haddress⟩

/-- **The number reported is that of the slots**: a pool may be reported as exhausted with more arenas than it has. -/
theorem exhausted_counts_slots : ¬∀ ops : List Op,
    ∀ e ∈ (traceAll (.pool 0) ops (Chronicle.start ((Heap.onOs .standard).addPools [threeArenas]))).2.entries,
      ∀ bytes size n events, e.act = .answer bytes (.error (.error (.poolExhausted size n))) events →
        (e.heap.pool 0).published.length = n := by
  intro hall
  obtain ⟨e, he, hreported, hlength, -⟩ := overtakenRun_reports
  obtain ⟨events, hact⟩ := Entry.act_of_reported hreported
  exact absurd (hlength.symm.trans (hall _ e he _ _ _ _ hact)) (by decide)

end BlockHeap
