import BlockHeap.Proofs.Heap.Objects
import BlockHeap.Proofs.Run.Watched
import BlockHeap.Proofs.Typed.Runs

/-!
# What a registry has lent

`Heap.Lends` says which blocks of a registry are in use in a heap: these blocks and no others are held by the pools or
have mappings of their own, and all that calls rely on is in order. Allocation lends one more block or changes nothing
(`Lends.allocate`), deallocation takes a block back (`Lends.deallocate`), and objects that fill the other blocks stay
where they are (`Memory.Spares`), also when something is written to a block or erased from it (`Lends.write`,
`Lends.erase`).

What a call does to the heap does not depend on what it carries along. So the results about calls that carry a ledger
apply, with the refused requests as interludes in which nothing happens (`Call.same_asking`).
-/

namespace BlockHeap

/-- Objects that fill one of the blocks stay. -/
def Memory.Spares (m m' : Memory) (blocks : Multiset Block) : Prop :=
  ∀ b ∈ blocks, ∀ o, m.Holds ⟨b.address, b.bytes, o⟩ → m'.Holds ⟨b.address, b.bytes, o⟩

theorem Memory.Spares.refl (m : Memory) (blocks : Multiset Block) : m.Spares m blocks := fun _ _ _ h => h

theorem Memory.Spares.trans {m m' m'' : Memory} {blocks : Multiset Block} (h : m.Spares m' blocks)
    (h' : m'.Spares m'' blocks) : m.Spares m'' blocks := fun b hb o ho => h' b hb o (h b hb o ho)

theorem Memory.Spares.mono {m m' : Memory} {blocks blocks' : Multiset Block} (h : m.Spares m' blocks)
    (hle : blocks' ≤ blocks) : m.Spares m' blocks' := fun b hb => h b (Multiset.mem_of_le hle hb)

/-! ## Calls that carry something else along -/

section

variable {ε ε' : Type} {src : Source}

/-- Others who do nothing. -/
theorem same_idle (refusals : List Bool) {R : ε → Ledger → Prop} (hR : ∀ s t past, R s t → R s { t with past }) :
    List.Forall₂ (Decision.Same R) (refusals.map fun refuse => ⟨id, refuse⟩)
      (decisions src (refusals.map (Answer.mk []))) := by
  induction refusals with
  | nil =>
    rw [List.map_nil, List.map_nil, decisions]
    exact .nil
  | cons refuse refusals ih =>
    rw [List.map_cons, List.map_cons, decisions, Answer.decision]
    refine .cons ⟨fun s t hst => ?_, rfl⟩ ih
    simp only [runAll]
    exact ⟨hst.heap, hR _ _ _ hst.rest⟩

/-- A call in which nothing is nested, and one at a moment in which others do nothing. -/
theorem Call.same_asking (m : Moment) (r : Registry) (rest : ε) (refusals : List Bool) :
    Call.Same (fun s l => s = rest ∧ l.live = m.live) (Call.asking m.heap rest refusals)
      (m.call r (refusals.map (Answer.mk [])) []) := by
  refine ⟨⟨rfl, rfl, rfl⟩, same_idle refusals fun s t past h => h, ?_, rfl⟩
  rw [Moment.call, interludes]
  exact .nil

/-- Giving a block back depends on the heap alone. -/
theorem Source.deallocate_same (src : Source) {c : Call ε} {d : Call ε'} (h : d.heap = c.heap) (x bytes : Nat) :
    (src.deallocate d x bytes).1 = (src.deallocate c x bytes).1 ∧
      (src.deallocate d x bytes).2.heap = (src.deallocate c x bytes).2.heap ∧
      (src.deallocate c x bytes).2.rest = c.rest := by
  have hpool : ∀ k, (d.deallocate k x).1 = (c.deallocate k x).1 ∧
      (d.deallocate k x).2.heap = (c.deallocate k x).2.heap ∧ (c.deallocate k x).2.rest = c.rest := by
    intro k
    rw [Call.deallocate, Call.deallocate, Call.onPool_eq, Call.onPool_eq, h]
    exact ⟨rfl, rfl, rfl⟩
  cases src with
  | pool k => exact hpool k
  | registry r =>
    rw [registry_deallocate, registry_deallocate]
    cases (registry r).poolOf bytes with
    | some k => exact hpool k
    | none =>
      dsimp only
      rw [Call.unmapOversized, Call.unmapOversized, h]
      split
      · exact ⟨rfl, h, rfl⟩
      · split
        · split
          · exact ⟨rfl, congrArg (fun heap : Heap => heap.unmap _) h, rfl⟩
          · exact ⟨rfl, h, rfl⟩
        · exact ⟨rfl, h, rfl⟩

end

/-! ## Blocks in use -/

/-- Where a pointer points to. -/
def Pointer.address : Pointer → Nat
  | .dangling x => x
  | .block x => x

/-- The block of `n` elements at an address, if they take any room. -/
def Allocator.rooms (a : Allocator) (n x : Nat) : Multiset Block :=
  if n * a.element.size = 0 then 0 else {a.blockAt n x}

/-- The heap of a registry, which was new on an operating system, with these blocks of the registry in use. -/
structure Heap.Lends (os : Os) (policy : Policy) (h : Heap) (blocks : Multiset Block) : Prop where
  regular : h.Regular fun _ => []
  pos : ∀ b ∈ blocks, 0 < b.bytes
  listed : ∃ live : List Block, (live : Multiset Block) = blocks ∧
    Process.Fine (.registry ⟨policy, 0⟩) (Registry.startHeap os policy) h live (fun _ => []) os.space.live ∧
    Moment.Grounded ⟨h, live⟩

/-- A registry has a pool for each number that serves requests. -/
theorem Registry.lt_size (os : Os) {policy : Policy} {bytes k : Nat}
    (hk : (Source.registry ⟨policy, 0⟩).poolOf bytes = some k) : k < (startHeap os policy).pools.size := by
  by_cases hclass : SizeClass.fitting bytes = SizeClass.unclassed
  · rw [Source.poolOf_of_unclassed _ hclass] at hk
    cases hk
  · obtain ⟨i, hi, hroute, -⟩ := Source.route_of_class ⟨policy, 0⟩ hclass
    rw [Source.route_eq, hk] at hroute
    obtain rfl : k = i := by simpa using hroute
    simpa [startHeap, Heap.addPools, Heap.onOs] using hi

namespace Heap.Lends

variable {os : Os} {policy : Policy} {h : Heap} {blocks : Multiset Block} {b : Block}

/-- A new registry has lent nothing. -/
theorem start (hos : os.Sound) (policy : Policy) : (Registry.startHeap os policy).Lends os policy 0 := by
  have hfresh := Registry.create_fresh hos policy
  have hsound : (Process.start (Registry.startHeap os policy)).Sound (.registry ⟨policy, 0⟩)
      (Registry.startHeap os policy) (fun _ => []) os.space.live := hfresh.start_sound
  exact ⟨hfresh.regular, fun b hb => absurd hb (Multiset.notMem_zero b), [], rfl, hsound.toFine, hfresh.grounded,
    fun b hb => absurd hb List.not_mem_nil⟩

theorem sound (hl : h.Lends os policy blocks) : h.Sound blocks (fun _ => []) os.space.live := by
  obtain ⟨live, rfl, hf, -⟩ := hl.listed
  exact hf.heap

/-- The bytes of a block are among its addresses. -/
theorem within (hl : h.Lends os policy blocks) (hb : b ∈ blocks) :
    Mapping.Within ⟨b.address, b.bytes⟩ (h.span b) := by
  obtain ⟨live, rfl, hf, -⟩ := hl.listed
  exact ⟨Nat.le_refl _, Nat.add_le_add_left (hf.separate.room b hb) b.address⟩

/-- A block in use is not at address 0. -/
theorem address_ne_zero (hl : h.Lends os policy blocks) (hb : b ∈ blocks) : b.address ≠ 0 := by
  obtain ⟨live, rfl, hf, hg⟩ := hl.listed
  exact Process.Fine.address_ne_zero (m := ⟨h, live⟩) hf hg hb

/-- The bytes of a block in use are no more than there are addresses. -/
theorem bytes_lt_limit (hl : h.Lends os policy blocks) (hb : b ∈ blocks) : b.bytes < Size.limit := by
  obtain ⟨live, rfl, hf, -⟩ := hl.listed
  exact Process.Fine.bytes_lt_limit (m := ⟨h, live⟩) hf hb

/-- A block in use lies in a mapping in place. -/
theorem exists_mapping (hl : h.Lends os policy blocks) (hb : b ∈ blocks) :
    ∃ n ∈ h.os.space.live, Mapping.Within ⟨b.address, b.bytes⟩ n := by
  cases hp : b.pool with
  | none =>
    exact ⟨b.mapping, hl.sound.live_of_mem (.inr (mapping_mem_own hb hp)),
      (hl.within hb).trans (hl.sound.span_within hb hp)⟩
  | some k =>
    obtain ⟨i, r, hi, -, hregion⟩ := hl.sound.exists_region hb hp
    exact ⟨r.value.region, hl.sound.live_of_mem (.inl (region_mem hi)), (hl.within hb).trans hregion⟩

/-- What is known about the process of a call with a ledger. -/
theorem of_process {s : Process}
    (hs : s.Sound (.registry ⟨policy, 0⟩) (Registry.startHeap os policy) (fun _ => []) os.space.live)
    (hg : s.Grounded) (hr : s.1.Regular fun _ => []) (hpos : ∀ b ∈ s.2.live, 0 < b.bytes) :
    s.1.Lends os policy s.2.live :=
  ⟨hr, hpos, s.2.live, rfl, hs.toFine, hg.now⟩

/-! ### Allocation -/

section Allocation

variable {ε : Type} (hl : h.Lends os policy blocks) (bytes : Nat) (rest : ε) (refusals : List Bool)

include hl

/-- Objects in blocks stay where they are. -/
theorem allocate_spares : h.memory.Spares
    ((Source.registry ⟨policy, 0⟩).allocate (Call.asking h rest refusals) bytes).2.heap.memory blocks := by
  intro b hb o ho
  obtain ⟨n, hn, hin⟩ := hl.exists_mapping hb
  obtain ⟨live, -, hf, -⟩ := hl.listed
  refine Source.allocate_holds hl.regular (fun k hk => ?_) ho (hl.pos b hb) hn hin rest refusals
  rw [hf.alike.size]
  exact Registry.lt_size os hk

/-- **Allocation** lends one more block, or else no more blocks are in use than before. -/
theorem allocate (hpos : 0 < bytes)
    (hroom : ¬(SizeClass.greatest < bytes ∧ Size.limit ≤ Oversized.footprint bytes)) : ∃ answer c,
    (Source.registry ⟨policy, 0⟩).allocate (Call.asking h rest refusals) bytes = (answer, c) ∧ c.rest = rest ∧
    h.memory.Spares c.heap.memory blocks ∧
    ((∃ x, answer = .ok x ∧
      c.heap.Lends os policy (⟨(Source.registry ⟨policy, 0⟩).poolOf bytes, x, bytes⟩ ::ₘ blocks)) ∨
    (∃ e, answer = .error (.error e) ∧ c.heap.Lends os policy blocks)) := by
  have hspares := hl.allocate_spares bytes rest refusals
  have hregular := hl.regular
  obtain ⟨live, rfl, hf, hg⟩ := hl.listed
  -- the same call at the moment with these blocks in use
  let m : Moment := ⟨h, live⟩
  have hfair := m.call_fair ⟨policy, 0⟩ (refusals.map (Answer.mk [])) []
  have hsound := (hf.call_sound (m := m) (refusals.map (Answer.mk [])) []).source_allocate bytes
  have hlands := (hg.call_grounded ⟨policy, 0⟩ (refusals.map (Answer.mk [])) []).allocate (.registry ⟨policy, 0⟩) bytes
  have hled := (@Source.allocate_led _ _ (.registry ⟨policy, 0⟩) _ _ hfair hregular bytes).1.regular hregular
  have hanswer := Registry.allocate_answer ⟨policy, 0⟩ hfair hregular hroom
  obtain ⟨answer, c, d, hc, hd, hsame⟩ :=
    ((Call.same_asking m ⟨policy, 0⟩ rest refusals).source_allocate (.registry ⟨policy, 0⟩) bytes).exists_eq
  have hlive : d.rest.live = live := hsame.rest.2
  rw [hc] at hspares
  rw [hd] at hsound hlands hled
  rw [show Registry.allocate ⟨policy, 0⟩ (m.call ⟨policy, 0⟩ (refusals.map (Answer.mk [])) []) bytes = (answer, d)
    from hd] at hanswer
  refine ⟨answer, c, hc, hsame.rest.1, hspares, ?_⟩
  rw [← hsame.heap_eq]
  rcases hanswer with ⟨x, rfl⟩ | ⟨n, e, rfl⟩ | ⟨n, k, rfl⟩
  · refine .inl ⟨x, rfl, ?_⟩
    have hprocess := of_process hsound.settle (.settle hlands) hled fun b hb => ?_
    · simp only [Process.settle, Call.process, Process.enter, hlive, ← Multiset.coe_add] at hprocess
      rwa [add_comm] at hprocess
    · rcases List.mem_append.mp hb with hb | hb
      · exact hl.pos b (Multiset.mem_coe.mpr (hlive ▸ hb))
      · rw [List.mem_singleton.mp hb]
        exact hpos
  all_goals
    refine .inr ⟨_, rfl, ?_⟩
    have hprocess := of_process hsound.settle (.settle hlands) hled fun b hb => hl.pos b (hlive ▸ hb)
    simpa only [Process.settle, Call.process, hlive] using hprocess

end Allocation

/-! ### Two blocks -/

theorem pair_le {c : Block} (hb : b ∈ blocks) : b ::ₘ {c} ≤ c ::ₘ blocks := by
  rw [← Multiset.cons_zero, Multiset.cons_swap]
  exact Multiset.cons_le_cons c (Multiset.singleton_le.mpr hb)

/-- The bytes of two blocks in use are apart. -/
theorem apart {c : Block} (hl : h.Lends os policy (c ::ₘ blocks)) (hb : b ∈ blocks) :
    Mapping.Disjoint ⟨b.address, b.bytes⟩ ⟨c.address, c.bytes⟩ :=
  (hl.sound.disjoint_of_pair (pair_le hb)).within (hl.within (Multiset.mem_cons_of_mem hb))
    (hl.within (Multiset.mem_cons_self c blocks))

/-! ### Deallocation -/

section Deallocation

variable {ε : Type} {c : Call ε} (hl : c.heap.Lends os policy (b ::ₘ blocks))

include hl

/-- Objects in the other blocks stay where they are. -/
theorem deallocate_spares : c.heap.memory.Spares
    ((Source.registry ⟨policy, 0⟩).deallocate c b.address b.bytes).2.heap.memory blocks := by
  intro b' hb' o ho
  have hb := Multiset.mem_cons_self b blocks
  obtain ⟨live, hlive, hf, -⟩ := hl.listed
  rw [Source.registry_deallocate, ← hf.routed b (Multiset.mem_coe.mp (hlive ▸ hb))]
  cases hp : b.pool with
  | some k =>
    dsimp only
    rw [Call.deallocate, Call.onPool_eq]
    exact ho
  | none =>
    obtain ⟨offset, hoffset, -, hhandle⟩ := hl.sound.housed b hb hp
    simp only [Call.unmapOversized, hoffset, hhandle.read?]
    rw [if_pos (show b.mapping.start = b.address from rfl)]
    have hdisjoint := hl.sound.disjoint_mapping (pair_le hb') hp
    exact ho.erase (Placed.meets_eq_false (hdisjoint.within (hl.within (Multiset.mem_cons_of_mem hb')) (.refl _)))

/-- **Deallocation** of a block in use succeeds and takes it back. -/
theorem deallocate : ∃ d, (Source.registry ⟨policy, 0⟩).deallocate c b.address b.bytes = (.ok (), d) ∧
    d.rest = c.rest ∧ d.heap.Lends os policy blocks ∧ c.heap.memory.Spares d.heap.memory blocks := by
  have hspares := hl.deallocate_spares
  have hregular := hl.regular
  obtain ⟨live, hlive, hf, hg⟩ := hl.listed
  obtain ⟨i, hi⟩ := List.mem_iff_getElem?.mp (Multiset.mem_coe.mp (hlive ▸ Multiset.mem_cons_self b blocks))
  have herase : ((live.eraseIdx i : List Block) : Multiset Block) = blocks :=
    (Multiset.cons_inj_right b).mp ((coe_live_eq_cons hi).symm.trans hlive)
  -- the same deallocation, with a ledger of these blocks
  let s : Process := (c.heap, ⟨live, []⟩)
  have hs : s.Sound (.registry ⟨policy, 0⟩) (Registry.startHeap os policy) (fun _ => []) os.space.live :=
    ⟨hf, fun _ hm => absurd hm List.not_mem_nil⟩
  have hgs : s.Grounded := ⟨hg, fun _ hm => absurd hm List.not_mem_nil⟩
  have hordered : Process.order.Good s :=
    ⟨fun _ hm => absurd hm List.not_mem_nil, fun _ hm => absurd hm List.not_mem_nil, .nil⟩
  obtain ⟨d, hd, hrest, -, hstruck⟩ := hs.deallocate_spec hi (Source.accepts_self _ _)
  have hgiven : (s.giveBack (.registry ⟨policy, 0⟩) i b.bytes).Grounded := hgs.giveBack i b.bytes
  have hled := (@Source.deallocate_led _ _ (.registry ⟨policy, 0⟩) _ _ (Call.alone_fair hordered) hregular b.address
    b.bytes).1.regular hregular
  rw [hd] at hled
  have hgave : s.giveBack (.registry ⟨policy, 0⟩) i b.bytes = d.process.strike i := by
    rw [Process.giveBack, hi]
    dsimp only
    rw [if_pos (Source.accepts_self _ _), hd]
  rw [hgave] at hgiven
  have hprocess := of_process hstruck hgiven hled fun b' hb' => ?_
  · obtain ⟨hanswer, hheap, hkept⟩ :=
      (Source.registry ⟨policy, 0⟩).deallocate_same (c := c) (d := Call.alone s.1 s.2) rfl b.address b.bytes
    rw [hd] at hanswer hheap
    refine ⟨_, Prod.ext hanswer.symm rfl, hkept, ?_, hspares⟩
    simp only [Process.strike, Call.process, hrest, s, herase] at hprocess
    rwa [← hheap]
  · simp only [Process.strike, Call.process, hrest, s] at hb'
    exact hl.pos b' (Multiset.mem_cons_of_mem (herase ▸ hb'))

end Deallocation

/-! ### Objects in blocks -/

/-- The memory changes, and the handles behind blocks stay. -/
theorem withMemory (hl : h.Lends os policy blocks) {memory : Memory}
    (hm : ∀ b ∈ blocks, b.pool = none → memory.Houses b) : ({ h with memory } : Heap).Lends os policy blocks := by
  obtain ⟨live, rfl, hf, hg⟩ := hl.listed
  have hs := hf.heap
  exact ⟨⟨hl.regular.os, hl.regular.pools⟩, hl.pos, live, rfl,
    ⟨⟨hs.os, hs.pools, hs.held, hs.mapped, hm⟩, hf.alike.trans (.of_pools rfl), hf.routed⟩,
    ⟨⟨hg.heap.os, hg.heap.pools⟩, hg.own⟩⟩

/-- What is done to the bytes of a block leaves alone what is apart from them: the handles behind blocks, and objects in
other blocks. -/
theorem change (hl : h.Lends os policy (b ::ₘ blocks)) {memory : Memory}
    (hm : ∀ p : Placed, p.span.Disjoint ⟨b.address, b.bytes⟩ → 0 < p.len → h.memory.Holds p → memory.Holds p) :
    ({ h with memory } : Heap).Lends os policy (b ::ₘ blocks) ∧ h.memory.Spares memory blocks := by
  have hb := Multiset.mem_cons_self b blocks
  refine ⟨hl.withMemory fun c hc hp => ?_, fun c hc o ho => ?_⟩
  · obtain ⟨offset, hoffset, hsize, hhandle⟩ := hl.sound.housed c hc hp
    obtain ⟨offset', hoffset', hapart, -⟩ := hl.sound.disjoint_handle hb hc hp
    obtain rfl : offset = offset' := Option.some.inj (hoffset.symm.trans hoffset')
    exact ⟨offset, hoffset, hsize, hm _ (hapart.symm.within (.refl _) (hl.within hb)) (Nat.zero_lt_succ 15) hhandle⟩
  · exact hm _ (hl.apart hc) (hl.pos c (Multiset.mem_cons_of_mem hc)) ho

/-- **Something is written** all over a block. -/
theorem write (hl : h.Lends os policy (b ::ₘ blocks)) (o : Object) :
    ({ h with memory := h.memory.write b.address b.bytes o } : Heap).Lends os policy (b ::ₘ blocks) ∧
      h.memory.Spares (h.memory.write b.address b.bytes o) blocks := by
  have hpos := hl.pos b (Multiset.mem_cons_self b blocks)
  refine hl.change fun p hp hlen ho => ho.write o (Placed.meets_eq_false hp) fun hstart => ?_
  simp only [Mapping.Disjoint, Mapping.stop, Placed.span] at hp
  omega

/-- **What lies in a block is erased.** -/
theorem erase (hl : h.Lends os policy (b ::ₘ blocks)) :
    ({ h with memory := h.memory.erase b.address b.bytes } : Heap).Lends os policy (b ::ₘ blocks) ∧
      h.memory.Spares (h.memory.erase b.address b.bytes) blocks :=
  hl.change fun _ hp _ ho => ho.erase (Placed.meets_eq_false hp)

/-! ### Elements -/

section Elements

variable {ε : Type} {c : Call ε} {e : Element} {n x : Nat}

/-- **A request for elements** is answered with a pointer to their room, or else no more blocks are in use than
before. -/
theorem allocate_elements (hl : h.Lends os policy blocks) (e : Element) (n : Nat) (rest : ε) (refusals : List Bool) :
    let a : Allocator := ⟨⟨policy, 0⟩, e⟩
    ∃ answer c, a.allocate (Call.asking h rest refusals) n = (answer, c) ∧ c.rest = rest ∧
      h.memory.Spares c.heap.memory blocks ∧
      ((∃ p : Pointer, answer = .ok p ∧ c.heap.Lends os policy (a.rooms n p.address + blocks)) ∨
      (∃ e, answer = .error (.error e) ∧ c.heap.Lends os policy blocks)) := by
  intro a
  rw [a.allocate_eq]
  have hsame := Memory.Spares.refl h.memory blocks
  split
  · exact ⟨_, _, rfl, rfl, hsame, .inr ⟨_, rfl, hl⟩⟩
  split
  · rename_i hzero
    refine ⟨_, _, rfl, rfl, hsame, .inl ⟨_, rfl, ?_⟩⟩
    rw [Allocator.rooms, if_pos hzero, zero_add]
    exact hl
  split
  · exact ⟨_, _, rfl, rfl, hsame, .inr ⟨_, rfl, hl⟩⟩
  split
  · exact ⟨_, _, rfl, rfl, hsame, .inr ⟨_, rfl, hl⟩⟩
  rename_i hzero _ hroom
  obtain ⟨answer, c, hc, hrest, hspares, hend⟩ := hl.allocate _ rest refusals (Nat.pos_of_ne_zero hzero) hroom
  rw [show a.registry.allocate _ _ = (answer, c) from hc]
  refine ⟨_, c, rfl, hrest, hspares, ?_⟩
  rcases hend with ⟨x, rfl, hlent⟩ | ⟨f, rfl, hlent⟩
  · refine .inl ⟨.block x, rfl, ?_⟩
    rw [Allocator.rooms, if_neg hzero, Multiset.singleton_add]
    exact hlent
  · exact .inr ⟨f, rfl, hlent⟩

/-- **The room of elements** is taken back. -/
theorem deallocate_elements (hl : c.heap.Lends os policy (Allocator.rooms ⟨⟨policy, 0⟩, e⟩ n x + blocks)) :
    ∃ d, Allocator.deallocate ⟨⟨policy, 0⟩, e⟩ c x n = (.ok (), d) ∧ d.rest = c.rest ∧ d.heap.Lends os policy blocks ∧
      c.heap.memory.Spares d.heap.memory blocks := by
  rw [Allocator.deallocate_eq]
  unfold Allocator.rooms at hl
  by_cases hzero : n * e.size = 0
  · rw [if_pos hzero, zero_add] at hl
    rw [if_pos (.inr (.inl hzero))]
    exact ⟨c, rfl, rfl, hl, .refl _ _⟩
  · rw [if_neg hzero, Multiset.singleton_add] at hl
    have hb := Multiset.mem_cons_self (Allocator.blockAt ⟨⟨policy, 0⟩, e⟩ n x) blocks
    have hnull : x ≠ 0 := hl.address_ne_zero hb
    have hlimit : n * e.size < Size.limit := hl.bytes_lt_limit hb
    rw [if_neg (by simp only [hnull, hzero, Nat.not_le_of_lt hlimit, or_self, not_false_iff])]
    exact hl.deallocate

end Elements

end Heap.Lends

end BlockHeap
