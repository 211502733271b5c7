import BlockHeap.Proofs.Heap.Outcome
import BlockHeap.Proofs.Heap.Path
import BlockHeap.Proofs.Pool.Returns
import BlockHeap.Proofs.Run.Guarded
import BlockHeap.Proofs.Run.Saturate

/-!
# The order of deallocations

At each moment of a run, blocks in use of one pool may be given back in any order: the calls have the same answers and
end in the same state, down to the last bit. And a block may be given back before or after the current arena of the pool
hands out the block at its cursor (`run_deallocations_commute`).
-/

namespace BlockHeap

namespace Call

variable {ε : Type} {c : Call ε} {k x : Nat} {p q : Pool}

/-- Returns blocks to pool `k` one after the other. -/
def deallocateAll (c : Call ε) (k : Nat) : List Nat → List (Except Fault Unit) × Call ε
  | [] => ([], c)
  | x :: xs =>
    let r := c.deallocate k x
    let rest := r.2.deallocateAll k xs
    (r.1 :: rest.1, rest.2)

theorem deallocate_of_pool {answer : Except Fault Unit} (h : (c.heap.pool k).deallocate x = (answer, q)) :
    c.deallocate k x = (answer, c.withPool k q) := by
  rw [deallocate, onPool_eq, h]
  rfl

/-- An existing arena has a block. -/
theorem allocate_of_pool (h : (c.heap.pool k).takeExisting (c.heap.pool k).count = (.ok (some x), q)) :
    c.allocate k = (.ok x, c.withPool k q) := by
  refine allocate_of_round ?_
  rw [round]
  simp only [onPool_eq, h]
  rfl

theorem withPool_withPool (p q : Pool) : (c.withPool k p).withPool k q = c.withPool k q := by
  simp only [withPool, Heap.setPool_setPool]

theorem pool_withPool (hk : k < c.heap.pools.size) (q : Pool) : (c.withPool k q).heap.pool k = q :=
  Heap.pool_setPool_self hk q

/-- Returning blocks is up to the pool. -/
theorem deallocateAll_eq (xs : List Nat) : ∀ {c : Call ε}, k < c.heap.pools.size →
    c.deallocateAll k xs =
      (((c.heap.pool k).deallocateAll xs).1, c.withPool k ((c.heap.pool k).deallocateAll xs).2) := by
  induction xs with
  | nil =>
    intro c _
    simp only [deallocateAll, Pool.deallocateAll, withPool, Heap.setPool_self]
  | cons x xs ih =>
    intro c hk
    have hfirst : c.deallocate k x =
        (((c.heap.pool k).deallocate x).1, c.withPool k ((c.heap.pool k).deallocate x).2) := deallocate_of_pool rfl
    have hrest := ih (c := c.withPool k ((c.heap.pool k).deallocate x).2) (by rwa [withPool, Heap.size_setPool])
    rw [pool_withPool hk, withPool_withPool] at hrest
    simp only [deallocateAll, Pool.deallocateAll, hfirst, hrest]

end Call

variable {ε : Type} {src : Source} {k : Nat} {h₀ h : Heap} {live : List Block} {claimed : Nat → List Nat}
  {pending : Multiset Mapping}

/-- Different blocks in use of a pool have addresses that the pool holds. -/
theorem Heap.Sound.addresses_le (hs : h.Sound live claimed pending) {bs : List Block} (hnodup : bs.Nodup)
    (hmem : ∀ b ∈ bs, b ∈ live ∧ b.pool = some k) :
    (bs.map Block.address : Multiset Nat) ≤ (h.pool k).held := by
  have hle : (bs : Multiset Block) ≤ (live : Multiset Block).filter (·.pool = some k) := by
    refine (Multiset.le_iff_subset (Multiset.coe_nodup.mpr hnodup)).mpr fun b hb => ?_
    exact Multiset.mem_filter.mpr (hmem b hb)
  rw [← hs.held k, ← Multiset.map_coe]
  exact Multiset.map_le_map hle

/-- Blocks in use, given back in two orders. -/
theorem Heap.Sound.deallocateAll_perm {c : Call ε} (hs : c.heap.Sound live claimed pending) {bs bs' : List Block}
    (hnodup : bs.Nodup) (hmem : ∀ b ∈ bs, b ∈ live ∧ b.pool = some k) (hperm : bs.Perm bs') :
    c.deallocateAll k (bs.map (·.address)) = c.deallocateAll k (bs'.map (·.address)) ∧
      (c.deallocateAll k (bs.map (·.address))).1 = List.replicate bs.length (.ok ()) := by
  cases bs with
  | nil =>
    obtain rfl := hperm.nil_eq
    exact ⟨rfl, rfl⟩
  | cons b bs =>
    have hle := hs.addresses_le hnodup hmem
    obtain ⟨hb, hpool⟩ := hmem b List.mem_cons_self
    have hk := Heap.lt_size ((hs.pools k).limit_pos (hs.held_mem hb hpool))
    obtain ⟨q, hq, -⟩ := (hs.pools k).deallocateAll_returning _ (hs.apart_pool k) hle
    have hsame := (hs.pools k).deallocateAll_perm (hs.apart_pool k) hle (hperm.map _)
    rw [Call.deallocateAll_eq _ hk, Call.deallocateAll_eq _ hk, ← hsame, hq, List.length_map]
    exact ⟨rfl, rfl⟩

/-- A block in use, given back before or after the next block at a cursor is handed out. -/
theorem Heap.Sound.deallocate_allocate {c : Call ε} (hs : c.heap.Sound live claimed pending) {b : Block}
    (hb : b ∈ live) (hpool : b.pool = some k) {s : Resident Arena}
    (hs' : (c.heap.pool k).slot? (c.heap.pool k).current = some s) (hbump : s.value.bump < s.value.usable) :
    ∃ c₁ c₂ c₃, c.deallocate k b.address = (.ok (), c₁) ∧
      c₁.allocate k = (.ok (s.value.base + s.value.bump), c₃) ∧
      c.allocate k = (.ok (s.value.base + s.value.bump), c₂) ∧ c₂.deallocate k b.address = (.ok (), c₃) := by
  have hheld := hs.held_mem hb hpool
  have hk := Heap.lt_size ((hs.pools k).limit_pos hheld)
  obtain ⟨q, q', r, h1, h2, h3, h4⟩ := (hs.pools k).deallocate_advance (hs.apart_pool k) hheld rfl hs' hbump
    (c.heap.pool k).count
  have hcount : q.count = (c.heap.pool k).count := by
    have hsteady := (c.heap.pool k).deallocate_steady b.address
    rw [h1] at hsteady
    exact hsteady.count
  refine ⟨c.withPool k q, c.withPool k q', c.withPool k r, Call.deallocate_of_pool h1, ?_, Call.allocate_of_pool h3, ?_⟩
  · rw [← Call.withPool_withPool q r]
    refine Call.allocate_of_pool ?_
    rw [Call.pool_withPool hk, hcount]
    exact h2
  · rw [← Call.withPool_withPool q' r]
    refine Call.deallocate_of_pool ?_
    rw [Call.pool_withPool hk]
    exact h4

/-- **The order of deallocations does not matter**, at any moment of any run from a fresh heap. Different blocks in use
of a pool, given back in two orders, give the same answers, all of them good ones, and leave the same state behind, so
that nothing that follows can tell the two orders apart. A block in use can be given back before or after an allocation
that the current arena serves with the block at its cursor: the allocation gets the same block, and the state is the
same. -/
theorem run_deallocations_commute (h' : h₀.Fresh) {ops : List Op} {m : Moment}
    (hm : m ∈ (runAll src ops (Process.start h₀)).moments) (c : Call ε) (hc : c.heap = m.heap) (k : Nat) :
    (∀ bs bs' : List Block, bs.Nodup → (∀ b ∈ bs, b ∈ m.live ∧ b.pool = some k) → bs.Perm bs' →
      c.deallocateAll k (bs.map (·.address)) = c.deallocateAll k (bs'.map (·.address)) ∧
      (c.deallocateAll k (bs.map (·.address))).1 = List.replicate bs.length (.ok ())) ∧
    ∀ b ∈ m.live, b.pool = some k → ∀ s, (m.heap.pool k).slot? (m.heap.pool k).current = some s →
      s.value.bump < s.value.usable → ∃ c₁ c₂ c₃, c.deallocate k b.address = (.ok (), c₁) ∧
        c₁.allocate k = (.ok (s.value.base + s.value.bump), c₃) ∧
        c.allocate k = (.ok (s.value.base + s.value.bump), c₂) ∧ c₂.deallocate k b.address = (.ok (), c₃) := by
  obtain ⟨claimed, pending, hf⟩ := (h'.run_sound src ops).record.past m hm
  have hs := hf.heap
  rw [← hc] at hs ⊢
  exact ⟨fun bs bs' hnodup hmem hperm => hs.deallocateAll_perm hnodup hmem hperm,
    fun b hb hpool s hs' hbump => hs.deallocate_allocate hb hpool hs' hbump⟩

/-- A pool grows while it grows already, and so has two arenas with a block each; then it serves one more. -/
def twoArenasRun : List Op := [.allocate 1 [.mk [.allocate 1 [] []] false] [], .allocate 1 [] []]

/-- The blocks of `twoArenasRun` are in two arenas, and the current one has others to hand out. -/
theorem run_deallocations_commute_two_arenas :
    let h := (Heap.onOs .standard).addPools [threeArenas]
    h.Fresh ∧ ∃ m ∈ (runAll (.pool 0) twoArenasRun (Process.start h)).moments, ∃ b₁ b₂ b₃, m.live = [b₁, b₂, b₃] ∧
      m.live.map (fun b => (m.heap.pool 0).owner? b.address) = [some 1, some 0, some 0] ∧
      let c := Call.alone m.heap ()
      (c.deallocateAll 0 [b₁.address, b₂.address, b₃.address] =
        c.deallocateAll 0 [b₃.address, b₁.address, b₂.address]) ∧
      (c.deallocateAll 0 [b₁.address, b₂.address, b₃.address]).1 = [.ok (), .ok (), .ok ()] ∧
      ∃ c₁ c₂ c₃ x, c.deallocate 0 b₁.address = (.ok (), c₁) ∧ c₁.allocate 0 = (.ok x, c₃) ∧
        c.allocate 0 = (.ok x, c₂) ∧ c₂.deallocate 0 b₁.address = (.ok (), c₃) := by
  intro h
  obtain ⟨m, hm, hlive, howners, hbump⟩ : ∃ m ∈ (runAll (.pool 0) twoArenasRun (Process.start h)).moments,
      m.live = [⟨some 0, 4294967296, 1⟩, ⟨some 0, 12952014848, 1⟩, ⟨some 0, 12956209152, 1⟩] ∧
      m.live.map (fun b => (m.heap.pool 0).owner? b.address) = [some 1, some 0, some 0] ∧
      ∃ s ∈ (m.heap.pool 0).slot? (m.heap.pool 0).current, s.value.bump < s.value.usable := by
    decide +kernel
  obtain ⟨s, hs, hbump⟩ := hbump
  obtain ⟨horder, hcommute⟩ := run_deallocations_commute threeArenas_fresh hm (Call.alone m.heap ()) rfl 0
  have hpools : ∀ b ∈ m.live, b.pool = some 0 := by
    rw [hlive]
    decide
  obtain ⟨hsame, hanswers⟩ := horder
    [⟨some 0, 4294967296, 1⟩, ⟨some 0, 12952014848, 1⟩, ⟨some 0, 12956209152, 1⟩]
    [⟨some 0, 12956209152, 1⟩, ⟨some 0, 4294967296, 1⟩, ⟨some 0, 12952014848, 1⟩]
    (by decide) (fun b hb => ⟨hlive ▸ hb, hpools b (hlive ▸ hb)⟩) (by decide)
  obtain ⟨c₁, c₂, c₃, h1, h2, h3, h4⟩ := hcommute _ (hlive ▸ List.mem_cons_self) rfl s hs hbump
  exact ⟨threeArenas_fresh, m, hm, _, _, _, hlive, howners, hsame, hanswers, c₁, c₂, c₃, _, h1, h2, h3, h4⟩

end BlockHeap
