import BlockHeap.Proofs.Careless.Basic
import BlockHeap.Proofs.Checked.Call
import BlockHeap.Proofs.Pool.Guard
import BlockHeap.Proofs.Run.Start

/-!
# Careless users do no harm to the allocator

A source *serves* a call when the allocation does not go wrong in checked arithmetic, ends with a block or with an
error, and takes its block from an arena of the pool. A heap is *safe* for a source when its arenas are, when its pools
know their own addresses, and when the source serves each call, whatever others do meanwhile.

Whatever was given back before, arenas and heaps remain safe (`careless_safe`). Blocks may be handed out twice then; but
nothing goes wrong in handing them out.
-/

namespace BlockHeap

open Careless

variable {ε : Type} {P : Pact ε} {src : Source} {claimed : Nat → List Nat} {c c' : Call ε} {h : Heap} {k : Nat}

/-! ## Owners -/

/-- A regular pool owns the addresses that lie among the blocks of its arenas. -/
theorem Pool.Regular.owns_iff {p : Pool} {slots : List Nat} (hp : p.Regular slots) (x : Nat) :
    p.owns x = true ↔ ∃ i r, p.slot? i = some r ∧ Pool.Within x r := by
  constructor
  · intro howns
    obtain ⟨i, hi⟩ := Option.isSome_iff_exists.mp howns
    obtain ⟨-, -, r, hr, hx⟩ := of_ownerFrom _ hi
    exact ⟨i, r, hr, ((hp.arenas i r hr).safe.owns_iff x).mp hx⟩
  · rintro ⟨i, r, hr, hx⟩
    have hlt : i < p.count := hp.slots.lt_of_isSome i (by rw [hr]; rfl)
    exact owner?_isSome hlt hr (((hp.arenas i r hr).safe.owns_iff x).mpr hx)

/-! ## Allocations -/

/-- The allocation does not go wrong, and ends with a block or an error; the block is one of an arena in the pool that
serves the request. -/
structure Source.Serves (src : Source) (c : Call ε) (bytes : Nat) : Prop where
  checked : src.allocate? c bytes = some (src.allocate c bytes)
  answer : (∃ x, (src.allocate c bytes).1 = .ok x) ∨ ∃ e, (src.allocate c bytes).1 = .error (.error e)
  block : ∀ k x, src.poolOf bytes = some k → (src.allocate c bytes).1 = .ok x →
    ∃ i r j, ((src.allocate c bytes).2.heap.pool k).slot? i = some r ∧ j * r.value.blockSize < r.value.usable ∧
      x = r.value.base + j * r.value.blockSize

/-- The block starts below the end of the blocks of its arena. -/
theorem Pool.HasBlock.offset {p : Pool} {slots : List Nat} {x : Nat} (hx : p.HasBlock x) (hp : p.Regular slots) :
    ∃ i r j, p.slot? i = some r ∧ j * r.value.blockSize < r.value.usable ∧
      x = r.value.base + j * r.value.blockSize := by
  obtain ⟨i, r, j, hr, hj, hx⟩ := hx
  obtain ⟨g, hg⟩ := hp.arena hr
  refine ⟨i, r, j, hr, ?_, hx⟩
  rw [hg.usable_eq]
  exact Nat.mul_lt_mul_of_pos_right hj hg.blockSize_pos

/-- An allocation from a regular pool ends with a block of an arena, or with an error. -/
theorem Call.OnCourse.allocate_block (hx : Call.OnCourse P claimed k (c, [])) :
    (∃ x, (c.allocate k).1 = .ok x ∧ ((c.allocate k).2.heap.pool k).HasBlock x) ∨
    (∃ e, (c.allocate k).1 = .error (.error e)) := by
  have hends := hx.allocate_ends
  generalize c.allocate k = r at hends
  cases hends with
  | block _ hblock => exact .inl ⟨_, rfl, hblock⟩
  | exhausted => exact .inr ⟨_, rfl⟩
  | refused => exact .inr ⟨_, rfl⟩

/-- **A regular heap serves all calls** for which others are lawful. -/
theorem Heap.Regular.serves (hr : c.heap.Regular claimed) (hc : c.Fair P) (src : Source) (bytes : Nat) :
    src.Serves c bytes := by
  have hled := @Source.allocate_led _ P src _ _ hc hr bytes
  refine ⟨src.allocate?_eq hc hr bytes, ?_, fun k x hk hx => ?_⟩
  · rcases src.allocate_cases c bytes with ⟨k, -, halloc⟩ | ⟨-, halloc⟩
    · rw [halloc]
      exact (hc.onCourse hr k).allocate_block.imp_left fun ⟨x, hx, _⟩ => ⟨x, hx⟩
    · rw [halloc]
      exact ((hc.onCourse hr 0).mapOversized_path bytes).2
  · rw [Source.allocate_of_poolOf hk c] at hx hled ⊢
    rcases (hc.onCourse hr k).allocate_block with ⟨y, hy, hblock⟩ | ⟨e, he⟩
    · obtain rfl := Except.ok.inj (hy.symm.trans hx)
      exact hblock.offset ((hled.1.regular hr).pools k)
    · rw [he] at hx
      cases hx

/-! ## Heaps -/

/-- The arenas are safe, the pools know the addresses of their blocks, and the source serves each call, whatever others
do meanwhile. -/
structure Heap.Safe (h : Heap) (src : Source) : Prop where
  arena : ∀ k i r, (h.pool k).slot? i = some r → r.value.Safe
  owns : ∀ k x, (h.pool k).owns? x = some ((h.pool k).owns x) ∧
    ((h.pool k).owns x = true ↔ ∃ i r, (h.pool k).slot? i = some r ∧ Pool.Within x r)
  allocate : ∀ bytes maps grown diary,
    src.Serves ⟨h, diary, reactions src maps, pauses src grown, #[]⟩ bytes

/-- **A regular heap is safe.** -/
theorem Heap.Regular.safe (hr : h.Regular claimed) (src : Source) : h.Safe src := by
  refine ⟨fun k i r hi => ((hr.pools k).arenas i r hi).safe, fun k x => ⟨Pool.owns?_eq _ x, (hr.pools k).owns_iff x⟩,
    fun bytes maps grown diary => ?_⟩
  -- the heaps that were seen before do not matter
  have hothers := Diary.inherited src diary.seen
  have hfair : Call.Fair (Diary.regular diary.seen) ⟨h, diary, reactions src maps, pauses src grown, #[]⟩ :=
    Diary.fair (fun h' hh => .inl hh) (hothers.of_reactions maps) (hothers.of_pauses grown)
  exact Heap.Regular.serves hr hfair src bytes

/-- **Nothing goes wrong, whatever was given back before**: arenas are safe at all times, and so is the heap at each
moment of each careless run from a fresh heap. -/
theorem careless_safe (h' : h.Fresh) (src : Source) (acts : List Careless.Act) :
    (∀ (a : Arena) (size : Nat), a.Used size → a.Safe) ∧
      ∀ h₁ ∈ (actAll src acts (Scene.start h)).look.2.seen, h₁.Safe src := by
  refine ⟨fun a size ha => ha.safe, fun h₁ hh => ?_⟩
  obtain ⟨claimed, hr⟩ := h'.seen_regular src acts h₁ hh
  exact hr.safe src

/-- A block is allocated, and the one behind it is given back, which nobody had. -/
def strayRun : List Careless.Act :=
  [.allocate SizeClass.greatest [] [], .deallocate (Os.spacing + SizeClass.greatest) SizeClass.greatest]

/-- After `strayRun` a block is free that is still to be handed out for the first time; the heap and its arena are safe
nevertheless. -/
theorem careless_safe_stray : (Registry.startHeap .standard .shared).Fresh ∧
    ∃ h₁ ∈ (actAll (.registry ⟨.shared, 0⟩) strayRun
        (Scene.start (Registry.startHeap .standard .shared))).look.2.seen,
      h₁.Safe (.registry ⟨.shared, 0⟩) ∧
      ∃ r, (h₁.pool 19).slot? 0 = some r ∧ r.value.cursor = 1 ∧ r.value.free.isFree 1 = true ∧
        r.value.Used SizeClass.greatest ∧ r.value.Safe := by
  have hfresh := Registry.create_fresh Os.standard_sound .shared
  obtain ⟨harenas, hheaps⟩ := careless_safe hfresh (.registry ⟨.shared, 0⟩) strayRun
  have hregular := hfresh.seen_regular (.registry ⟨.shared, 0⟩) strayRun
  have hstray : (((actAll (.registry ⟨.shared, 0⟩) strayRun
      (Scene.start (Registry.startHeap .standard .shared))).1.pool 19).slot? 0).map
        (fun r => (r.value.cursor, r.value.free.isFree 1)) = some (1, true) := by
    decide +kernel
  have hsize : ((actAll (.registry ⟨.shared, 0⟩) strayRun
      (Scene.start (Registry.startHeap .standard .shared))).1.pool 19).blockSize = SizeClass.greatest := by
    decide +kernel
  generalize actAll (.registry ⟨.shared, 0⟩) strayRun (Scene.start (Registry.startHeap .standard .shared)) = s
    at hheaps hregular hstray hsize ⊢
  have hlast : s.1 ∈ s.look.2.seen := List.mem_append_right _ List.mem_cons_self
  obtain ⟨claimed, hr⟩ := hregular s.1 hlast
  obtain ⟨r, hslot, hrest⟩ := Option.map_eq_some_iff.mp hstray
  obtain ⟨hcursor, hfree⟩ := Prod.mk.inj hrest
  have hused := (hr.pools 19).arenas 0 r hslot
  rw [hsize] at hused
  exact ⟨hfresh, s.1, hlast, hheaps s.1 hlast, r, hslot, hcursor, hfree, hused, harenas r.value _ hused⟩

end BlockHeap
