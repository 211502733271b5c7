import BlockHeap.Proofs.Heap.Table
import BlockHeap.Proofs.Run.Start

/-!
# What a registry leaves behind

Dropping a registry drops its pools, and with them all blocks from them and the mappings of their arenas
(`Heap.Sound.dropRegistry`). A block with a mapping of its own is known to nobody but its user. So after any run the
mappings that the run leaves in place when its registry is dropped are those of the oversized blocks that are still in
use, and it leaves none only if there are no such blocks (`run_drop`).
-/

namespace BlockHeap

variable {h : Heap} {blocks : Multiset Block} {claimed : Nat → List Nat} {pending : Multiset Mapping}

theorem Registry.mem_poolNumbers {r : Registry} {k : Nat} :
    k ∈ r.poolNumbers ↔ r.first ≤ k ∧ k < r.first + SizeClass.count := by
  rw [poolNumbers, List.mem_map]
  constructor
  · rintro ⟨i, hi, rfl⟩
    have := List.mem_range.mp hi
    omega
  · intro hk
    exact ⟨k - r.first, List.mem_range.mpr (by omega), by omega⟩

/-- **Dropping the only registry** of a heap, with no calls in progress: the blocks from pools are gone, and no arena
is left. -/
theorem Heap.Sound.dropRegistry (hs : h.Sound blocks (fun _ => []) pending) {r : Registry} (hfirst : r.first = 0)
    (hsize : h.pools.size = SizeClass.count) :
    (r.drop h).Sound (blocks.filter (·.pool = none)) (fun _ => []) pending ∧ (r.drop h).mappings = 0 ∧
      (r.drop h).os.space.stray = h.os.space.stray := by
  have hmem : ∀ k, k ∈ r.poolNumbers ↔ k < h.pools.size := by
    intro k
    rw [Registry.mem_poolNumbers]
    omega
  obtain ⟨h1, h2, h3, h4⟩ := Sound.dropPools r.poolNumbers hs fun _ _ => rfl
  rw [Registry.drop]
  refine ⟨?_, ?_, h3⟩
  · -- every block that is from a pool is from one of the registry
    have hblocks : blocks.filter (fun b => ∀ k ∈ r.poolNumbers, b.pool ≠ some k) = blocks.filter (·.pool = none) := by
      refine Multiset.filter_congr fun b hb => ⟨fun hall => ?_, fun hnone k _ => by simp [hnone]⟩
      cases hpool : b.pool with
      | none => rfl
      | some k =>
        have hlt : k < h.pools.size := Nat.lt_of_not_le fun hle => hs.pool_ne_of_le hle hb hpool
        exact absurd hpool (hall k ((hmem k).mpr hlt))
    rw [hblocks] at h1
    exact h1
  · have hidle : ∀ k, ((r.poolNumbers.foldl Heap.dropPool h).pool k).arenas = 0 := by
      intro k
      rw [h4 k]
      split
      · exact vacant_sound.2
      · rename_i hk
        rw [pool_of_le (Nat.le_of_not_lt fun hlt => hk ((hmem k).mpr hlt))]
        exact vacant_sound.2
    rw [mappings_eq_bind Multiset.nodup_zero (fun _ hk => absurd hk (Multiset.notMem_zero _)) fun k _ => hidle k,
      Multiset.zero_bind]

/-- The mappings of their own that blocks have. -/
theorem Block.bind_own (live : List Block) :
    (live : Multiset Block).bind Block.own = ((live.filter (·.pool = none)).map Block.mapping : List Mapping) := by
  induction live with
  | nil => rfl
  | cons b live ih =>
    rw [← Multiset.cons_coe, Multiset.cons_bind, ih]
    cases hpool : b.pool with
    | none => simp [own_none hpool, hpool]
    | some k => simp [own_some hpool, hpool]

/-- **What a registry leaves behind.** When a new registry is dropped after any run, the mappings in place are those of
the oversized blocks in use and those from before the run, and nothing was released that was not in place. So the run
leaves nothing in place just when none of the blocks in use is oversized. -/
theorem run_drop {os : Os} (hos : os.Sound) (policy : Policy) (ops : List Op) :
    ∃ r h, Registry.create (Heap.onOs os) policy = (.ok r, h) ∧
      let s := runAll (.registry r) ops (Process.start h)
      (r.drop s.1).os.space.live.Perm ((s.2.live.filter (·.pool = none)).map Block.mapping ++ os.space.live) ∧
      (r.drop s.1).os.space.stray = s.1.os.space.stray ∧
      ((r.drop s.1).os.space.live.Perm os.space.live ↔ ∀ b ∈ s.2.live, b.pool ≠ none) := by
  refine ⟨_, _, Registry.create_eq os policy, ?_⟩
  intro s
  have hs : s.Sound (.registry ⟨policy, 0⟩) (Registry.startHeap os policy) (fun _ => []) os.space.live :=
    (Registry.create_fresh hos policy).run_sound _ ops
  have hsize : s.1.pools.size = SizeClass.count := by
    rw [hs.alike.size, Registry.startHeap, Heap.size_addPools, List.length_map, List.length_range]
    exact Nat.zero_add _
  obtain ⟨h1, h2, h3⟩ := hs.heap.dropRegistry (r := ⟨policy, 0⟩) rfl hsize
  have hlive : (Registry.drop ⟨policy, 0⟩ s.1).os.space.live.Perm
      ((s.2.live.filter (·.pool = none)).map Block.mapping ++ os.space.live) := by
    have hmapped := h1.mapped
    rw [h2, zero_add, Multiset.filter_coe, Block.bind_own, List.filter_filter, Multiset.coe_add] at hmapped
    simpa using Multiset.coe_eq_coe.mp hmapped
  refine ⟨hlive, h3, fun hnone b hb hpool => ?_, fun hall => ?_⟩
  · have hlength := (hnone.symm.trans hlive).length_eq
    have hpos : 0 < (s.2.live.filter (·.pool = none)).length :=
      List.length_pos_of_mem (List.mem_filter.mpr ⟨hb, decide_eq_true hpool⟩)
    rw [List.length_append, List.length_map] at hlength
    omega
  · rwa [List.filter_eq_nil_iff.mpr fun b hb => by simpa using hall b hb] at hlive

/-- A block of 5 MiB and one of 100 bytes are in use when the registry is dropped: the mapping of the first stays. -/
theorem run_drop_oversized : Os.standard.Sound ∧
    ∃ r h, Registry.create (Heap.onOs .standard) .threadLocal = (.ok r, h) ∧
      let s := runAll (.registry r) [.allocate 5242880 [] [], .allocate 100 [] []] (Process.start h)
      s.1.os.space.live.length = 3 ∧ (r.drop s.1).os.space.live = [⟨Os.spacing, 5246976⟩] ∧
      ¬∀ b ∈ s.2.live, b.pool ≠ none := by
  obtain ⟨r, h, hcreate, hlive, -, hiff⟩ :=
    run_drop Os.standard_sound .threadLocal [.allocate 5242880 [] [], .allocate 100 [] []]
  refine ⟨Os.standard_sound, r, h, hcreate, ?_⟩
  rw [Registry.create_eq] at hcreate
  cases hcreate
  have hleft : (Registry.drop ⟨.threadLocal, 0⟩ (runAll (.registry ⟨.threadLocal, 0⟩)
      [.allocate 5242880 [] [], .allocate 100 [] []]
        (Process.start (Registry.startHeap .standard .threadLocal))).1).os.space.live = [⟨Os.spacing, 5246976⟩] := by
    decide +kernel
  refine ⟨by decide +kernel, hleft, fun hall => ?_⟩
  have hnone := hiff.mpr hall
  rw [hleft] at hnone
  exact absurd hnone.length_eq (by decide)

/-- **A dropped registry may leave a mapping in place**: not everything that it handed out is unmapped. -/
theorem oversized_outlives_registry : ¬∀ (policy : Policy) (ops : List Op),
    let r : Registry := ⟨policy, 0⟩
    let s := runAll (.registry r) ops (Process.start (Registry.startHeap .standard policy))
    (r.drop s.1).os.space.live = [] := by
  intro hall
  exact absurd (hall .threadLocal [.allocate 5242880 [] []]) (by decide +kernel)

end BlockHeap
