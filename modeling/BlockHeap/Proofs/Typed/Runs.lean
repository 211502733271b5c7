import BlockHeap.Proofs.Run.Grounded
import BlockHeap.Proofs.Run.Returns
import BlockHeap.Proofs.Run.Separate
import BlockHeap.Proofs.Typed.Requests

/-!
# Elements in blocks

At each moment of each run on a new registry, a request for elements is answered in the order that is laid down, by a
block that fits the elements in size and alignment if it is answered by a block at all (`Allocator.Answers`), and a
block in use that was asked for as a number of elements goes back to where it is from when this number of elements is
given back (`Allocator.Holds`): `run_elements`.

A block fits because its size class is a power of two that is not below the alignment, so that the alignment divides the
class, and divides the size of a page as well.
-/

namespace BlockHeap

/-- The block with which a request for `n` elements was answered. -/
def Allocator.blockAt (a : Allocator) (n x : Nat) : Block :=
  ⟨(Source.registry a.registry).poolOf (n * a.element.size), x, n * a.element.size⟩

/-- Block `b` of a moment holds `n` elements: it is aligned and has room for them, and giving it back reaches what it is
from and nothing else. -/
structure Allocator.Holds (a : Allocator) (m : Moment) (n : Nat) (b : Block) : Prop where
  aligned : a.element.align ∣ b.address
  room : n * a.element.size ≤ (m.heap.span b).len
  not_null : b.address ≠ 0
  /-- A block from a pool becomes free in the arena where it lies, and nothing else changes but the mark of its
  region. -/
  pooled : ∀ k, b.pool = some k → ∃ i r j f, (m.heap.pool k).slot? i = some r ∧ j < r.value.blockCount ∧
    b.address = r.value.address j ∧ r.value.free.isFree j = false ∧ r.value.free.Freed j f ∧
    ∀ {ε : Type} (c : Call ε), c.heap = m.heap →
      a.deallocate c b.address n = (.ok (), c.withPool k ((m.heap.pool k).withFree i r f))
  /-- The mapping of an oversized block is found through the handle behind the block, and given back. -/
  oversized : b.pool = none → ∃ offset, Oversized.handleOffset? b.bytes = some offset ∧
    m.heap.memory.read? (b.address + offset) = some (.handle b.mapping) ∧ b.mapping ∈ m.heap.os.space.live ∧
    ∀ {ε : Type} (c : Call ε), c.heap = m.heap →
      a.deallocate c b.address n = (.ok (), (c.log (.oversizedUnmapped b.bytes)).unmap b.mapping)

/-- How a call answers a request for `n` elements. -/
structure Allocator.Answers (a : Allocator) (n : Nat) (c : Call Ledger) : Prop where
  /-- What is looked at, in order of precedence. No error of these changes anything. -/
  order : a.allocate c n =
    if Size.limit ≤ n * a.element.size then (.error (.error (.capacityOverflow n a.element.size)), c)
    else if n * a.element.size = 0 then (.ok (.dangling a.element.align), c)
    else if pageSize < a.element.align then (.error (.error (.unsupportedAlignment a.element.align pageSize)), c)
    else if SizeClass.greatest < n * a.element.size ∧ Size.limit ≤ Oversized.footprint (n * a.element.size) then
      (.error (.error (.capacityOverflow (n * a.element.size) 1)), c)
    else ((a.registry.allocate c (n * a.element.size)).1.map .block, (a.registry.allocate c (n * a.element.size)).2)
  /-- What the registry answers is none of the errors above. -/
  admitted : a.Admits n → (∃ x, (a.allocate c n).1 = .ok (.block x)) ∨
    (∃ size e, (a.allocate c n).1 = .error (.error (.map size e))) ∨
    ∃ size k, (a.allocate c n).1 = .error (.error (.poolExhausted size k))
  /-- Nothing goes wrong. -/
  checked : a.allocate? c n = some (a.allocate c n)
  /-- A block is from the pool of its class, or has a mapping of its own; it keeps away from all other blocks in use,
  and holds the elements. -/
  block : ∀ x c', a.allocate c n = (.ok (.block x), c') →
    (∀ k, (a.blockAt n x).pool = some k → c.allocate k = (.ok x, c')) ∧
    ((a.blockAt n x).pool = none → c.mapOversized (n * a.element.size) = (.ok x, c')) ∧
    Moment.Separate ⟨c'.heap, c'.rest.live ++ [a.blockAt n x]⟩ ∧
    a.Holds ⟨c'.heap, c'.rest.live ++ [a.blockAt n x]⟩ n (a.blockAt n x)

/-- The call of somebody who finds the heap of a moment, while others go on working with the same registry: at each
request for a mapping, and at each growth of a pool. -/
def Moment.call (m : Moment) (r : Registry) (maps : List Answer) (grown : List (List Op)) : Call Ledger :=
  ⟨m.heap, ⟨m.live, []⟩, decisions (.registry r) maps, interludes (.registry r) grown, #[]⟩

/-! ## Blocks in use -/

/-- The lesser of two powers of two is a multiple of all that are not greater than either. -/
theorem pow_dvd_min {i j k : Nat} (hj : 2 ^ i ≤ 2 ^ j) (hk : 2 ^ i ≤ 2 ^ k) : 2 ^ i ∣ min (2 ^ j) (2 ^ k) := by
  have hij := (Nat.pow_le_pow_iff_right (Nat.one_lt_two)).mp hj
  have hik := (Nat.pow_le_pow_iff_right (Nat.one_lt_two)).mp hk
  rcases Nat.le_total (2 ^ j) (2 ^ k) with hjk | hkj
  · rw [Nat.min_eq_left hjk]
    exact Nat.pow_dvd_pow 2 hij
  · rw [Nat.min_eq_right hkj]
    exact Nat.pow_dvd_pow 2 hik

variable {os : Os} {policy : Policy} {r : Registry} {e : Element} {h₀ : Heap} {m : Moment} {b : Block} {n x : Nat}
  {claimed : Nat → List Nat} {pending : Multiset Mapping} {c c' : Call Ledger}

/-- Elements are not aligned to more than the size of an array of them. -/
theorem Element.Proper.align_le (he : e.Proper) (hne : n * e.size ≠ 0) : e.align ≤ n * e.size :=
  Nat.le_of_dvd (Nat.pos_of_ne_zero hne) (Nat.dvd_mul_left_of_dvd he.align_dvd n)

namespace Process.Fine

/-- **A block in use is aligned** for the elements that it was asked for. -/
theorem align_dvd
    (hf : Process.Fine (.registry ⟨policy, 0⟩) (Registry.startHeap os policy) m.heap m.live claimed pending)
    (he : e.Proper) (hb : b ∈ m.live) (hn : n * e.size = b.bytes) (hne : b.bytes ≠ 0) (hpage : e.align ≤ pageSize) :
    e.align ∣ b.address := by
  obtain ⟨i, hi⟩ := he.align_pow
  have hle : 2 ^ i ≤ b.bytes := by
    rw [← hi, ← hn]
    exact he.align_le (hn ▸ hne)
  have hpage : 2 ^ i ≤ 2 ^ 12 := hi ▸ hpage
  rw [hi]
  cases hp : b.pool with
  | none =>
    refine Nat.dvd_trans ?_ (hf.heap.aligned_page hb hp)
    exact Nat.pow_dvd_pow 2 ((Nat.pow_le_pow_iff_right Nat.one_lt_two).mp hpage)
  | some k =>
    refine Nat.dvd_trans ?_ (hf.heap.aligned hb hp)
    obtain ⟨hsize, hroom⟩ := hf.blockSize_eq hb hp
    have hclass : SizeClass.fitting b.bytes ≠ SizeClass.unclassed := by
      intro hnone
      have hroute := (hf.routed b hb).symm.trans hp
      rw [Source.poolOf_of_unclassed _ hnone] at hroute
      cases hroute
    obtain ⟨f, -, -, hpow, -⟩ := SizeClass.exists_pow_of_fitting hclass
    rw [hpow] at hsize hroom
    rw [hsize]
    exact pow_dvd_min (hle.trans hroom) hpage

/-- The bytes of a block in use are no more than there are addresses. -/
theorem bytes_lt_limit (hf : Process.Fine (.registry r) h₀ m.heap m.live claimed pending) (hb : b ∈ m.live) :
    b.bytes < Size.limit := by
  cases hp : b.pool with
  | none =>
    obtain ⟨offset, hoffset, -⟩ := hf.heap.housed b hb hp
    rw [Oversized.handleOffset?, Size.add?] at hoffset
    split at hoffset
    · omega
    · cases hoffset
  | some k =>
    have hclass : ¬SizeClass.greatest < b.bytes := by
      intro hlarge
      have hroute := (hf.routed b hb).symm.trans hp
      rw [(r.poolOf_eq_none_iff).mpr hlarge] at hroute
      cases hroute
    have hgreatest : SizeClass.greatest < Size.limit := by decide
    omega

/-- Giving back a block in use is up to the registry. -/
theorem deallocate_eq (hf : Process.Fine (.registry r) h₀ m.heap m.live claimed pending) (hb : b ∈ m.live)
    (hn : n * e.size = b.bytes) (hne : b.bytes ≠ 0) (hnull : b.address ≠ 0) {ε : Type} (c : Call ε) :
    Allocator.deallocate ⟨r, e⟩ c b.address n = (Source.registry r).deallocate c b.address b.bytes := by
  rw [Allocator.deallocate_eq, hn, if_neg]
  · rfl
  · rintro (hzero | hzero | hmany)
    · exact hnull hzero
    · exact hne hzero
    · exact Nat.not_lt_of_le hmany (hf.bytes_lt_limit hb)

/-- A block in use is not at address 0. -/
theorem address_ne_zero (hf : Process.Fine (.registry r) h₀ m.heap m.live claimed pending) (hg : m.Grounded)
    (hb : b ∈ m.live) : b.address ≠ 0 := by
  refine Nat.ne_of_gt ?_
  cases hp : b.pool with
  | none => exact hg.own b hb hp
  | some k =>
    obtain ⟨i, s, -, hi, hbase, -⟩ := hf.heap.exists_arena hb hp
    exact Nat.lt_of_lt_of_le (hg.heap.pools k i s hi) hbase

/-- **A block in use holds the elements** that it was asked for. -/
theorem holds
    (hf : Process.Fine (.registry ⟨policy, 0⟩) (Registry.startHeap os policy) m.heap m.live claimed pending)
    (hg : m.Grounded) (he : e.Proper) (hb : b ∈ m.live) (hn : n * e.size = b.bytes) (hne : b.bytes ≠ 0)
    (hpage : e.align ≤ pageSize) : Allocator.Holds ⟨⟨policy, 0⟩, e⟩ m n b := by
  have hnull := hf.address_ne_zero hg hb
  refine ⟨hf.align_dvd he hb hn hne hpage, ?_, hnull, fun k hp => ?_, fun hp => ?_⟩
  · rw [show n * _ = b.bytes from hn]
    exact hf.separate.room b hb
  · have hroute := (hf.routed b hb).symm.trans hp
    obtain ⟨i, s, j, f, hi, hj, hjb, hfree, hfreed, hback⟩ := hf.pool_deallocate hb hp
    refine ⟨i, s, j, f, hi, hj, hjb, hfree, hfreed, fun c hc => ?_⟩
    rw [hf.deallocate_eq hb hn hne hnull, Source.deallocate_of_poolOf hroute]
    rw [← hc] at hback ⊢
    exact Call.deallocate_of_pool hback
  · obtain ⟨offset, hoffset, -, hholds⟩ := hf.heap.housed b hb hp
    refine ⟨offset, hoffset, hholds.read?, hf.heap.live_of_mem (.inr (Heap.mapping_mem_own hb hp)), fun c hc => ?_⟩
    have hroute := (hf.routed b hb).symm.trans hp
    have hread : c.heap.memory.read? (b.address + offset) = some (.handle b.mapping) := by
      rw [hc]
      exact hholds.read?
    rw [hf.deallocate_eq hb hn hne hnull, Source.registry_deallocate, hroute]
    simp only [Call.unmapOversized, hoffset, hread]
    exact if_pos rfl

end Process.Fine

/-! ## Requests at a moment -/

/-! What is known at a moment is known of a call that finds its heap. -/

theorem Process.Fine.call_sound (hf : Process.Fine (.registry r) h₀ m.heap m.live claimed pending)
    (maps : List Answer) (grown : List (List Op)) :
    (m.call r maps grown).Sound (.registry r) h₀ claimed pending :=
  ⟨⟨hf, fun _ hm => absurd hm List.not_mem_nil⟩, decisions_orderly maps, interludes_orderly grown⟩

theorem Moment.call_fair (m : Moment) (r : Registry) (maps : List Answer) (grown : List (List Op)) :
    (m.call r maps grown).Fair Process.order :=
  ⟨⟨fun _ hm => absurd hm List.not_mem_nil, fun _ hm => absurd hm List.not_mem_nil, .nil⟩, decisions_lawful maps,
    interludes_lawful grown⟩

theorem Moment.Grounded.call_grounded (hg : m.Grounded) (r : Registry) (maps : List Answer) (grown : List (List Op)) :
    (m.call r maps grown).Grounded :=
  ⟨⟨hg, fun _ hm => absurd hm List.not_mem_nil⟩, decisions_grounding maps, interludes_grounding grown⟩

/-- **A block with which a request is answered** holds the elements. -/
theorem Call.Sound.holds (hc : c.Sound (.registry ⟨policy, 0⟩) (Registry.startHeap os policy) claimed pending)
    (hg : c.Grounded) (he : e.Proper) (halloc : Allocator.allocate ⟨⟨policy, 0⟩, e⟩ c n = (.ok (.block x), c')) :
    let a : Allocator := ⟨⟨policy, 0⟩, e⟩
    (∀ k, (a.blockAt n x).pool = some k → c.allocate k = (.ok x, c')) ∧
    ((a.blockAt n x).pool = none → c.mapOversized (n * e.size) = (.ok x, c')) ∧
    Moment.Separate ⟨c'.heap, c'.rest.live ++ [a.blockAt n x]⟩ ∧
    a.Holds ⟨c'.heap, c'.rest.live ++ [a.blockAt n x]⟩ n (a.blockAt n x) := by
  intro a
  obtain ⟨hadmits, hserved⟩ := Allocator.admits_of_block halloc
  have hserved : (Source.registry ⟨policy, 0⟩).allocate c (n * e.size) = (.ok x, c') := hserved
  have hfine := hc.source_allocate (n * e.size)
  have hlands := hg.allocate (.registry ⟨policy, 0⟩) (n * e.size)
  rw [hserved] at hfine hlands
  have hfine := hfine.settle.toFine
  have hground := (Process.Grounded.settle hlands).now
  refine ⟨fun k hk => ?_, fun hk => ?_, hfine.separate, ?_⟩
  · have hroute : (Source.registry ⟨policy, 0⟩).poolOf (n * e.size) = some k := hk
    rw [← hserved, Source.allocate_of_poolOf hroute]
  · have hroute : (Source.registry ⟨policy, 0⟩).poolOf (n * e.size) = none := hk
    rw [← hserved, Source.registry_allocate, hroute]
  · exact hfine.holds hground he (List.mem_append_right _ List.mem_cons_self) rfl hadmits.ne_zero hadmits.align_le

/-- Requests for elements at a moment, and what becomes of them. -/
structure Allocator.Works (a : Allocator) (m : Moment) : Prop where
  answers : ∀ maps grown n, a.Answers n (m.call a.registry maps grown)
  /-- A block in use holds the number of elements that it was asked for. -/
  holds : ∀ b ∈ m.live, ∀ n, n * a.element.size = b.bytes → b.bytes ≠ 0 → a.element.align ≤ pageSize → a.Holds m n b
  /-- A deallocation is ignored, or else it is up to the registry and does something. -/
  deallocate : ∀ {ε : Type} (c : Call ε) (x n : Nat), (a.deallocate c x n =
      if x = 0 ∨ n * a.element.size = 0 ∨ Size.limit ≤ n * a.element.size then (.ok (), c)
      else a.registry.deallocate c x (n * a.element.size)) ∧
    (a.deallocate c x n = (.ok (), c) ↔ x = 0 ∨ n * a.element.size = 0 ∨ Size.limit ≤ n * a.element.size)

/-- **Requests for elements**, at any moment of any run on a new registry, for elements of any type. A request is
answered as it should be, in order of precedence, whatever others do meanwhile; errors found before the registry is
asked change nothing, and nothing goes wrong on the way. A block is aligned for the elements and has room for them, and
it goes back to the pool that it is from, or gives up its own mapping, when it is given back as the same number of
elements. Only null pointers, empty requests and those of too many bytes are ignored. -/
theorem run_elements (hos : os.Sound) (policy : Policy) (ops : List Op) :
    ∃ r h, Registry.create (Heap.onOs os) policy = (.ok r, h) ∧
      ∀ m ∈ (runAll (.registry r) ops (Process.start h)).moments, ∀ e : Element, e.Proper →
        Allocator.Works ⟨r, e⟩ m := by
  have hfresh := Registry.create_fresh hos policy
  refine ⟨_, _, Registry.create_eq os policy, fun m hm e he => ?_⟩
  obtain ⟨claimed, pending, hf⟩ := (hfresh.run_sound (.registry ⟨policy, 0⟩) ops).record.past m hm
  obtain ⟨claimed', hregular⟩ := (hfresh.run_ordered (.registry ⟨policy, 0⟩) ops).regular m hm
  have hg := hfresh.run_grounded (.registry ⟨policy, 0⟩) ops m hm
  refine ⟨fun maps grown n => ?_, fun b hb n hn hne hpage => hf.holds hg he hb hn hne hpage,
    fun c x n => ?_⟩
  · have hfair := m.call_fair ⟨policy, 0⟩ maps grown
    exact ⟨Allocator.allocate_eq _ _ _, fun hn => hn.answer hfair hregular, Allocator.allocate?_eq _ hfair hregular n,
      fun x c' halloc => (hf.call_sound maps grown).holds (hg.call_grounded _ maps grown) he halloc⟩
  · exact ⟨Allocator.deallocate_eq _ c x n, Allocator.deallocate_eq_self_iff _ c x n⟩

/-- A block for five elements of 24 bytes, and one for so many that they do not fit in any class. -/
def arraysRun : List Op := [.allocate (5 * 24) [] [], .allocate (200000 * 24) [] []]

/-- After `arraysRun` both blocks hold their elements. Five more are granted; one element too many for the address range
is not, nor is one whose alignment is that of two pages, but no elements of that kind are. -/
theorem run_elements_arrays : Os.standard.Sound ∧ Element.Proper ⟨24, 8⟩ ∧ Element.Proper ⟨8192, 8192⟩ ∧
    ∃ r h, Registry.create (Heap.onOs .standard) .shared = (.ok r, h) ∧
      ∃ m ∈ (runAll (.registry r) arraysRun (Process.start h)).moments, ∃ b₁ b₂, m.live = [b₁, b₂] ∧
        b₁.pool = some (r.first + 4) ∧ b₂.pool = none ∧
        Allocator.Holds ⟨r, ⟨24, 8⟩⟩ m 5 b₁ ∧ Allocator.Holds ⟨r, ⟨24, 8⟩⟩ m 200000 b₂ ∧
        let c := m.call r [] []
        (∃ x c', Allocator.allocate ⟨r, ⟨24, 8⟩⟩ c 5 = (.ok (.block x), c') ∧
          Moment.Separate ⟨c'.heap, c'.rest.live ++ [Allocator.blockAt ⟨r, ⟨24, 8⟩⟩ 5 x]⟩) ∧
        Allocator.allocate ⟨r, ⟨24, 8⟩⟩ c 768614336404564651 =
          (.error (.error (.capacityOverflow 768614336404564651 24)), c) ∧
        Allocator.allocate ⟨r, ⟨8192, 8192⟩⟩ c 0 = (.ok (.dangling 8192), c) ∧
        Allocator.allocate ⟨r, ⟨8192, 8192⟩⟩ c 1 = (.error (.error (.unsupportedAlignment 8192 4096)), c) := by
  have hsmall : Element.Proper ⟨24, 8⟩ := ⟨⟨3, rfl⟩, by decide⟩
  have hwide : Element.Proper ⟨8192, 8192⟩ := ⟨⟨13, rfl⟩, by decide⟩
  obtain ⟨r, h, hcreate, hworks⟩ := run_elements Os.standard_sound .shared arraysRun
  refine ⟨Os.standard_sound, hsmall, hwide, r, h, hcreate, ?_⟩
  rw [Registry.create_eq] at hcreate
  cases hcreate
  obtain ⟨m, hm, hlive, hnext⟩ : ∃ m ∈ (runAll (.registry ⟨.shared, 0⟩) arraysRun
      (Process.start (Registry.startHeap .standard .shared))).moments,
      m.live = [⟨some 4, 4294967296, 120⟩, ⟨none, 12952014848, 4800000⟩] ∧
      (Allocator.allocate ⟨⟨.shared, 0⟩, ⟨24, 8⟩⟩ (m.call ⟨.shared, 0⟩ [] []) 5).1 = .ok (.block 4294967424) := by
    decide +kernel
  have hm24 := hworks m hm _ hsmall
  have hm8192 := hworks m hm _ hwide
  refine ⟨m, hm, _, _, hlive, rfl, rfl, hm24.holds _ (hlive ▸ by decide) 5 rfl (by decide) (by decide),
    hm24.holds _ (hlive ▸ by decide) 200000 rfl (by decide) (by decide), ?_, ?_, ?_, ?_⟩
  · have hblock := (hm24.answers [] [] 5).block 4294967424 _ (Prod.ext hnext rfl)
    exact ⟨_, _, Prod.ext hnext rfl, hblock.2.2.1⟩
  · exact (hm24.answers [] [] _).order
  · exact (hm8192.answers [] [] 0).order
  · exact (hm8192.answers [] [] 1).order

end BlockHeap
