import BlockHeap.Proofs.Threads.Drain

/-!
# When a shared arena is full

Between calls, an arena has no block left for a thread that goes on alone just when the threads hold all blocks
(`Sound.allocate_alone_iff`). Then `isFull` says so too, as long as no summary bit is left over: a release sets the
block's bit first and the summary bit second, and if others take the block in between and clear the summary bit of the
region, the bit set last stands for a region without free blocks (`Sound.isFull_iff`, `run_isFull`). So `isFull` is
never wrong when it says that an arena is full, but it may fail to say so (`isFull_not_exact`).
-/

namespace BlockHeap.Arena

open FreeMap (blocksPerRegion)

namespace Shared

variable {g : Geometry} {s : Shared} {t : Nat}

/-- The threads hold all blocks. -/
def AllHeld (s : Shared) : Prop := ∀ i < s.arena.blockCount, ∃ t, s.arena.address i ∈ (s.threads t).held

theorem Quiet.blocks (hq : s.Quiet) (t : Nat) : s.blocks t = (s.threads t).held := by
  rw [Shared.blocks, hq t]
  rfl

/-- Between calls, the blocks that are not held are those that were not handed out yet and those that are free. -/
theorem Sound.full_iff (h : s.Sound g) (hq : s.Quiet) : s.arena.Full ↔ s.AllHeld := by
  constructor
  · intro hfull i hi
    obtain ⟨hc, hbit⟩ := hfull i hi
    refine (h.ledger.all i hc).elim (fun hfree => ?_) fun ⟨t, ht⟩ => ⟨t, hq.blocks t ▸ ht⟩
    rw [hbit] at hfree
    cases hfree
  · intro hall i hi
    obtain ⟨t, ht⟩ := hall i hi
    obtain ⟨j, hj, heq, hbit⟩ := h.ledger.owned t _ (List.mem_append_right _ ht)
    obtain rfl := h.laid.address_injective heq
    exact ⟨hj, hbit⟩

/-- **Between calls, `isFull` is right but for summary bits that are left over.** -/
theorem Sound.isFull_iff (h : s.Sound g) (hq : s.Quiet) :
    s.arena.isFull = true ↔ s.AllHeld ∧ ∀ r, s.arena.free.isMarked r = false := by
  have hmarks : s.arena.free.hasFree = false ↔ ∀ r, s.arena.free.isMarked r = false := by
    rw [← Bool.not_eq_true, FreeMap.hasFree_iff_isMarked, not_exists]
    simp only [Bool.not_eq_true]
  have hbump : s.arena.usable ≤ s.arena.bump ↔ s.arena.blockCount ≤ s.arena.cursor := by
    rw [← Nat.not_lt, h.laid.bump_lt_iff, Nat.not_lt]
  rw [Arena.isFull, Bool.and_eq_true, decide_eq_true_eq, Bool.not_eq_true', hmarks, hbump, ← h.full_iff hq]
  refine and_congr_left fun hnone => ⟨fun hle i hi => ⟨Nat.lt_of_lt_of_le hi hle, ?_⟩, fun hfull => ?_⟩
  · -- a free block would have its summary bit
    rw [← Bool.not_eq_true]
    intro hfree
    have hmark := h.isMarked hq hfree
    rw [hnone] at hmark
    cases hmark
  · exact Nat.le_of_not_lt fun hlt => Nat.lt_irrefl _ (hfull _ hlt).1

/-- **What a thread that goes on alone is told.** -/
theorem Sound.allocate_alone_iff (h : s.Sound g) (hq : s.Quiet) (t : Nat) :
    ∃ n answer, ((s.run (.allocate t :: List.replicate n (.operate t false))).threads t) =
        ⟨answer.toList ++ (s.threads t).held, answer :: (s.threads t).answers, .idle⟩ ∧
      (answer = none ↔ s.AllHeld) := by
  obtain ⟨n, answer, a', hanswer, hrun⟩ := h.allocate_alone (hq t)
  obtain ⟨hsound, halike⟩ := h.run (.allocate t :: List.replicate n (.operate t false))
  refine ⟨n, answer, by rw [hrun, set_self], ?_⟩
  rw [hrun] at hsound halike
  have hquiet : (Shared.set { s with arena := a' } t
      ⟨answer.toList ++ (s.threads t).held, answer :: (s.threads t).answers, .idle⟩).Quiet := by
    intro u
    by_cases hu : u = t
    · rw [hu, set_self]
    · rw [set_of_ne hu]
      exact hq u
  constructor
  · rintro rfl
    have hall := (hsound.full_iff hquiet).mp (h.full_of_allocate hq hanswer)
    intro i hi
    obtain ⟨u, hu⟩ := hall i (halike.blockCount.symm ▸ hi)
    rw [halike.address] at hu
    refine ⟨u, ?_⟩
    by_cases hut : u = t
    · rw [hut, set_self] at hu
      rwa [hut]
    · rwa [set_of_ne hut] at hu
  · -- another block would be in two hands
    intro hall
    cases answer with
    | none => rfl
    | some x =>
      have hnew := hquiet.blocks t
      rw [set_self] at hnew
      obtain ⟨i, hi, hx, -⟩ := hsound.ledger.owned t x (hnew ▸ List.mem_cons_self)
      rw [halike.address] at hx
      obtain ⟨u, hu⟩ := hall i (halike.blockCount ▸ Nat.lt_of_lt_of_le hi hsound.laid.cursor_le)
      rw [← hx] at hu
      by_cases hut : u = t
      · have hnodup := hsound.ledger.nodup t
        rw [hnew] at hnodup
        exact absurd (hut ▸ hu) (List.nodup_cons.mp hnodup).1
      · have hother := hquiet.blocks u
        rw [set_of_ne hut] at hother
        exact absurd (hsound.ledger.apart u t x (hother ▸ hu) (hnew ▸ List.mem_cons_self)) hut

/-- **Full arenas under sharing.** Any number of threads may use a fresh arena, whatever the order of their operations.
Whenever no call is in progress, a thread that goes on alone is told that there is no block just when the threads hold
all blocks; and `isFull` says that the arena is full just when this is so and no summary bit is left over. -/
theorem run_isFull {size : Nat} {region : Mapping} (hpow : Size.isPowerOfTwo size = true)
    (hle : size ≤ regionBytes / 2) (hlen : region.len = regionBytes) (hstop : region.stop ≤ Size.limit)
    (ms : List Move) :
    ∃ g a, Geometry.ofBlockSize size = .ok g ∧ create .shared g region = .ok a ∧
      let s := (start a).run ms
      (s.Quiet →
        (s.arena.isFull = true ↔ s.AllHeld ∧ ∀ r, s.arena.free.isMarked r = false) ∧
        ∀ t, ∃ n answer, ((s.run (.allocate t :: List.replicate n (.operate t false))).threads t) =
            ⟨answer.toList ++ (s.threads t).held, answer :: (s.threads t).answers, .idle⟩ ∧
          (answer = none ↔ s.AllHeld)) := by
  obtain ⟨g, hg⟩ := Geometry.exists_ofBlockSize hpow hle
  obtain ⟨a, hcreate, ha, htaken, -⟩ := create_spec .shared region hg hlen hstop
  obtain ⟨hs, -⟩ := (Sound.start ha htaken).run ms
  exact ⟨g, a, hg, hcreate, fun hq => ⟨hs.isFull_iff hq, hs.allocate_alone_iff hq⟩⟩

/-! ## A summary bit that is left over -/

/-- The first thread takes all of three blocks and gives them back; before it sets the summary bit for the last one, the
second thread takes all three. -/
def overtakenRelease : List Move :=
  let take : List Move := [.allocate 0, .operate 0 false, .operate 0 false]
  let give (x : Nat) : List Move := [.deallocate 0 x, .operate 0 false, .operate 0 false]
  take ++ take ++ take ++ give 4096 ++ give 0x1001000 ++ [.deallocate 0 0x2001000, .operate 0 false] ++
    .allocate 1 :: List.replicate 5 (.operate 1 false) ++ .allocate 1 :: List.replicate 5 (.operate 1 false) ++
    .allocate 1 :: List.replicate 8 (.operate 1 false) ++ [.operate 0 false]

/-- The second thread has all blocks, no call is in progress, and the summary bit is set. -/
theorem overtakenRelease_spec {g : Geometry} {a : Arena} (hg : Geometry.ofBlockSize 0x1000000 = .ok g)
    (ha : create .shared g ⟨4096, regionBytes⟩ = .ok a) :
    ((start a).run overtakenRelease).Quiet ∧ ((start a).run overtakenRelease).AllHeld ∧
      ((start a).run overtakenRelease).arena.free.isMarked 0 = true ∧
      ((start a).run overtakenRelease).arena.isFull = false := by
  have hrun : (do
      let g ← Geometry.ofBlockSize 0x1000000
      let a ← create .shared g ⟨4096, regionBytes⟩
      let s := (start a).run overtakenRelease
      return ((s.threads 0).stage, (s.threads 1).stage,
        (List.range s.arena.blockCount).all fun i => s.arena.address i ∈ (s.threads 1).held,
        s.arena.free.isMarked 0, s.arena.isFull)) = .ok (.idle, .idle, true, true, false) := by
    decide +kernel
  rw [hg] at hrun
  change (create _ _ _).bind _ = _ at hrun
  rw [ha] at hrun
  have hvalues := Except.ok.inj hrun
  simp only [Prod.mk.injEq, List.all_eq_true, List.mem_range, decide_eq_true_eq] at hvalues
  obtain ⟨h0, h1, hheld, hmarked, hfull⟩ := hvalues
  refine ⟨fun t => ?_, fun i hi => ⟨1, hheld i hi⟩, hmarked, hfull⟩
  by_cases ht0 : t = 0
  · rw [ht0, h0]
  by_cases ht1 : t = 1
  · rw [ht1, h1]
  · have hne : ∀ m ∈ overtakenRelease, t ≠ m.thread := by
      intro m hm
      have hthread : m.thread = 0 ∨ m.thread = 1 := by
        revert m
        decide
      omega
    rw [run_threads_of_ne overtakenRelease hne]
    rfl

/-- After that run a thread finds no block, and `isFull` is `false`. -/
theorem run_isFull_overtaken :
    Size.isPowerOfTwo 0x1000000 = true ∧ 0x1000000 ≤ regionBytes / 2 ∧
      (Mapping.mk 4096 regionBytes).len = regionBytes ∧ (Mapping.mk 4096 regionBytes).stop ≤ Size.limit ∧
      ∃ g a, Geometry.ofBlockSize 0x1000000 = .ok g ∧ create .shared g ⟨4096, regionBytes⟩ = .ok a ∧
        let s := (start a).run overtakenRelease
        s.Quiet ∧ s.AllHeld ∧ s.arena.isFull = false ∧ s.arena.free.isMarked 0 = true ∧
          ∃ n, ((s.run (.allocate 0 :: List.replicate n (.operate 0 false))).threads 0).answers.head? = some none := by
  refine ⟨by decide, by decide, rfl, by decide, ?_⟩
  obtain ⟨g, a, hg, ha, hquiet⟩ := @run_isFull 0x1000000 ⟨4096, regionBytes⟩ (by decide) (by decide) rfl (by decide)
    overtakenRelease
  obtain ⟨hidle, hall, hmarked, hfull⟩ := overtakenRelease_spec hg ha
  obtain ⟨-, halone⟩ := hquiet hidle
  obtain ⟨n, answer, hanswer, hiff⟩ := halone 0
  refine ⟨g, a, hg, ha, hidle, hall, hfull, hmarked, n, ?_⟩
  rw [hanswer, hiff.mpr hall]
  rfl

/-- **`isFull` is not exact**, even when no call is in progress. -/
theorem isFull_not_exact : ¬∀ (g : Geometry) (a : Arena), Geometry.ofBlockSize 0x1000000 = .ok g →
    create .shared g ⟨4096, regionBytes⟩ = .ok a → ∀ ms : List Move, ((start a).run ms).Quiet →
    (((start a).run ms).arena.isFull = true ↔ ((start a).run ms).AllHeld) := by
  intro hexact
  obtain ⟨g, hg⟩ := Geometry.exists_ofBlockSize (show Size.isPowerOfTwo 0x1000000 = true by decide) (by decide)
  obtain ⟨a, ha, -⟩ := create_spec .shared ⟨4096, regionBytes⟩ hg rfl (by decide)
  obtain ⟨hidle, hall, -, hfull⟩ := overtakenRelease_spec hg ha
  have hwrong := (hexact g a hg ha overtakenRelease hidle).mpr hall
  rw [hfull] at hwrong
  cases hwrong

end Shared

end BlockHeap.Arena
