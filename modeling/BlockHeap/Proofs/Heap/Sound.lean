import BlockHeap.Heap.Oversized
import BlockHeap.Proofs.Heap.Memory
import BlockHeap.Proofs.Pool.Blocks
import Mathlib.Data.Multiset.Filter
import Mathlib.Logic.Function.Basic
import Mathlib.Tactic.Abel

/-!
# Sound heaps

A heap is *sound* for the blocks in use, the slots claimed by growths in progress and the mappings that calls in
progress have not yet found a use for, when every block is held by its pool or has a mapping of its own with its handle
behind it, and the mappings in place are those of arenas, of such blocks and of calls in progress, and no others.

The steps of calls keep a heap sound: work in one pool (`Sound.setPool` and what follows from it), mapping and
unmapping (`Sound.map_spec`, `Sound.unmap`), and giving a mapping to a block (`Sound.house`) or taking it back
(`Sound.unhouse`).
-/

namespace BlockHeap

/-- A block in use: the pool that it is from, or `none` if it has a mapping of its own, its first address, and the
number of bytes that was asked for. -/
structure Block where
  pool : Option Nat
  address : Nat
  bytes : Nat
  deriving DecidableEq, Repr

namespace Oversized

/-- The handle lies behind the block. -/
theorem le_handleOffset {size offset : Nat} (h : handleOffset? size = some offset) : size ≤ offset := by
  unfold handleOffset? Size.add? at h
  split at h
  · simp only [Option.map_some, Option.some.injEq, handleAlign] at h
    omega
  · cases h

/-- The handle lies at the next multiple of its alignment. -/
theorem handleOffset_eq {size offset : Nat} (h : handleOffset? size = some offset) :
    offset = Size.roundUp size handleAlign := by
  unfold handleOffset? Size.add? at h
  split at h
  · simp only [Option.map_some, Option.some.injEq, handleAlign] at h
    unfold Size.roundUp Size.ceilDiv handleAlign
    split <;> omega
  · cases h

/-- The mapping has room for the handle. -/
theorem mappingSize_eq {size offset total : Nat} (h : handleOffset? size = some offset)
    (ht : mappingSize? size = some total) : total = offset + handleBytes := by
  rw [mappingSize?, h, Option.bind_some, Size.add?] at ht
  split at ht
  · injection ht with ht
    exact ht.symm
  · cases ht

end Oversized

namespace Block

/-- The mapping of a block that has one of its own. -/
def mapping (b : Block) : Mapping :=
  ⟨b.address, Size.roundUp ((Oversized.mappingSize? b.bytes).getD 0) pageSize⟩

/-- The mappings that a block has of its own. -/
def own (b : Block) : Multiset Mapping := if b.pool = none then {b.mapping} else 0

/-- The addresses of the blocks that are from a pool. -/
def addresses (blocks : Multiset Block) (k : Nat) : Multiset Nat :=
  (blocks.filter (·.pool = some k)).map Block.address

theorem addresses_cons_self {b : Block} {k : Nat} (h : b.pool = some k) (blocks : Multiset Block) :
    addresses (b ::ₘ blocks) k = b.address ::ₘ addresses blocks k := by
  simp [addresses, h]

theorem addresses_cons_of_ne {b : Block} {k : Nat} (h : b.pool ≠ some k) (blocks : Multiset Block) :
    addresses (b ::ₘ blocks) k = addresses blocks k := by
  simp [addresses, h]

theorem addresses_add (blocks blocks' : Multiset Block) (k : Nat) :
    addresses (blocks + blocks') k = addresses blocks k + addresses blocks' k := by
  rw [addresses, Multiset.filter_add, Multiset.map_add, addresses, addresses]

/-- The addresses of blocks given as such. -/
theorem addresses_map (xs : List Nat) (k bytes : Nat) :
    addresses (xs.map fun x => ⟨some k, x, bytes⟩ : List Block) k = xs := by
  induction xs with
  | nil => rfl
  | cons x xs ih => rw [List.map_cons, ← Multiset.cons_coe, addresses_cons_self rfl, ih, Multiset.cons_coe]

theorem mem_addresses {b : Block} {k : Nat} (h : b.pool = some k) {blocks : Multiset Block} (hb : b ∈ blocks) :
    b.address ∈ addresses blocks k :=
  Multiset.mem_map_of_mem _ (Multiset.mem_filter.mpr ⟨hb, h⟩)

theorem own_some {b : Block} {k : Nat} (h : b.pool = some k) : b.own = 0 := by simp [own, h]

theorem own_none {b : Block} (h : b.pool = none) : b.own = {b.mapping} := by simp [own, h]

end Block

/-- The handle of a block with a mapping of its own lies behind it. -/
def Memory.Houses (m : Memory) (b : Block) : Prop :=
  ∃ offset, Oversized.handleOffset? b.bytes = some offset ∧
    Oversized.mappingSize? b.bytes = some (offset + Oversized.handleBytes) ∧
    m.Holds ⟨b.address + offset, Oversized.handleBytes, .handle b.mapping⟩

/-- A block with its handle lies in its mapping. -/
theorem Memory.Houses.stop_le {m : Memory} {b : Block} (h : m.Houses b) : ∃ offset,
    Oversized.handleOffset? b.bytes = some offset ∧ b.bytes ≤ offset ∧
      b.address + offset + Oversized.handleBytes ≤ b.mapping.stop := by
  obtain ⟨offset, h1, h2, -⟩ := h
  refine ⟨offset, h1, Oversized.le_handleOffset h1, ?_⟩
  have hpage : 0 < pageSize := by decide
  have hle := Size.le_roundUp hpage (offset + Oversized.handleBytes)
  rw [Block.mapping, h2, Mapping.stop]
  simp only [Option.getD_some]
  omega

/-- Memory outside the mapping of a block does not meet its handle. -/
theorem Memory.Houses.meets_eq_false {m : Memory} {b : Block} (h : m.Houses b) {offset start len : Nat}
    (ho : Oversized.handleOffset? b.bytes = some offset) (hdisjoint : b.mapping.Disjoint ⟨start, len⟩)
    (object : Object) : Placed.meets ⟨b.address + offset, Oversized.handleBytes, object⟩ start len = false := by
  obtain ⟨offset', ho', -, hstop⟩ := h.stop_le
  obtain rfl : offset = offset' := Option.some.inj (ho.symm.trans ho')
  have hstart : b.mapping.start = b.address := rfl
  unfold Mapping.Disjoint at hdisjoint
  simp only [Mapping.stop] at hdisjoint hstop
  simp only [Placed.meets, Bool.and_eq_false_iff, decide_eq_false_iff_not]
  omega

namespace Heap

variable {h : Heap} {k : Nat} {p q : Pool}

/-! ## The table of pools -/

/-- The pools, in no order. -/
def poolSet (h : Heap) : Multiset Pool := h.pools.toList

/-- The mappings of all arenas. -/
def mappings (h : Heap) : Multiset Mapping := h.poolSet.bind Pool.mappings

theorem pool_of_le (hk : h.pools.size ≤ k) : h.pool k = .vacant := by
  rw [pool, Array.getD_eq_getD_getElem?, Array.getElem?_eq_none hk]
  rfl

theorem pool_setPool (hk : k < h.pools.size) (p : Pool) (j : Nat) :
    (h.setPool k p).pool j = if j = k then p else h.pool j := by
  simp only [pool, setPool, Array.getD_eq_getD_getElem?, Array.getElem?_setIfInBounds, eq_comm (a := j), hk, if_true]
  split <;> rfl

theorem setPool_of_le (hk : h.pools.size ≤ k) (p : Pool) : h.setPool k p = h := by
  rw [setPool, Array.setIfInBounds_eq_of_size_le hk]

theorem pool_setPool_self (hk : k < h.pools.size) (p : Pool) : (h.setPool k p).pool k = p :=
  (pool_setPool hk p k).trans (if_pos rfl)

theorem pool_setPool_of_ne {j : Nat} (hj : j ≠ k) (p : Pool) : (h.setPool k p).pool j = h.pool j := by
  rcases Nat.lt_or_ge k h.pools.size with hk | hk
  · rw [pool_setPool hk, if_neg hj]
  · rw [setPool_of_le hk]

@[simp] theorem setPool_setPool (p q : Pool) : (h.setPool k p).setPool k q = h.setPool k q := by simp [setPool]

theorem size_setPool (p : Pool) : (h.setPool k p).pools.size = h.pools.size := by simp [setPool]

theorem onPool_eq {α : Type} (h : Heap) (k : Nat) (f : Pool → α × Pool) :
    h.onPool k f = ((f (h.pool k)).1, h.setPool k (f (h.pool k)).2) := by
  rw [onPool, takePool]
  simp only [setPool_setPool]

theorem getElem?_toList (hk : k < h.pools.size) : h.pools.toList[k]? = some (h.pool k) := by
  simp [pool, hk]

/-- One pool and all the others. -/
theorem poolSet_eq_cons (hk : k < h.pools.size) : ∃ rest, h.poolSet = h.pool k ::ₘ rest ∧
    (∀ q, (h.setPool k q).poolSet = q ::ₘ rest) ∧ ∀ j, j ≠ k → j < h.pools.size → h.pool j ∈ rest := by
  obtain ⟨hlen, hget⟩ := List.getElem?_eq_some_iff.mp (getElem?_toList hk)
  refine ⟨(h.pools.toList.eraseIdx k : List _), ?_, fun q => ?_, fun j hj hlt => ?_⟩
  · rw [poolSet, coe_eq_cons_eraseIdx hlen, hget]
  · rw [poolSet, show (h.setPool k q).pools.toList = h.pools.toList.set k q from by simp [setPool],
      coe_set_eq_cons_eraseIdx hlen]
  · rw [Multiset.mem_coe, List.mem_eraseIdx_iff_getElem?]
    exact ⟨j, hj, getElem?_toList hlt⟩

/-- The pool that has nothing is sound. -/
theorem vacant_sound : Pool.vacant.Sound [] ∧ Pool.vacant.arenas = 0 :=
  Pool.Sound.of_empty rfl rfl (fun i => by simp [Pool.slot?, Pool.vacant]) fun hpos => absurd hpos (Nat.lt_irrefl 0)

theorem mappings_le (h : Heap) (k : Nat) : (h.pool k).mappings ≤ h.mappings := by
  rcases Nat.lt_or_ge k h.pools.size with hk | hk
  · obtain ⟨rest, h1, -⟩ := poolSet_eq_cons hk
    rw [mappings, h1, Multiset.cons_bind]
    exact Multiset.le_add_right _ _
  · rw [pool_of_le hk, Pool.mappings, vacant_sound.2, Multiset.zero_bind]
    exact Multiset.zero_le _

/-- The pools of the two heaps have the same settings. -/
structure Alike (h h' : Heap) : Prop where
  size : h'.pools.size = h.pools.size
  pool : ∀ k, (h.pool k).Alike (h'.pool k)

theorem Alike.refl (h : Heap) : h.Alike h := ⟨rfl, fun _ => .refl _⟩

theorem Alike.trans {h h' h'' : Heap} (h1 : h.Alike h') (h2 : h'.Alike h'') : h.Alike h'' :=
  ⟨h2.size.trans h1.size, fun k => (h1.pool k).trans (h2.pool k)⟩

theorem Alike.of_pools {h h' : Heap} (hpools : h'.pools = h.pools) : h.Alike h' := by
  refine ⟨by rw [hpools], fun k => ?_⟩
  rw [Heap.pool, Heap.pool, hpools]
  exact .refl _

theorem Alike.setPool (h : Heap) (hq : (h.pool k).Alike q) : h.Alike (h.setPool k q) := by
  refine ⟨size_setPool q, fun j => ?_⟩
  rcases Nat.lt_or_ge k h.pools.size with hk | hk
  · rw [pool_setPool hk]
    split
    · rename_i hj
      rw [hj]
      exact hq
    · exact .refl _
  · rw [setPool_of_le hk]
    exact .refl _

/-- Work in one pool leaves the others alone. -/
theorem kept_setPool (hq : (h.pool k).Kept q) (j : Nat) : (h.pool j).Kept ((h.setPool k q).pool j) := by
  rcases Nat.lt_or_ge k h.pools.size with hk | hk
  · rw [pool_setPool hk]
    split
    · rename_i hj
      rw [hj]
      exact hq
    · exact .refl _
  · rw [setPool_of_le hk]
    exact .refl _

/-! ## Soundness -/

/-- Every block is held by its pool or has a mapping of its own, and every mapping has its use. -/
structure Sound (h : Heap) (blocks : Multiset Block) (claimed : Nat → List Nat) (pending : Multiset Mapping) :
    Prop where
  os : h.os.Sound
  pools : ∀ k, (h.pool k).Sound (claimed k)
  held : ∀ k, Block.addresses blocks k = (h.pool k).held
  mapped : (h.os.space.live : Multiset Mapping) = h.mappings + blocks.bind Block.own + pending
  housed : ∀ b ∈ blocks, b.pool = none → h.memory.Houses b

variable {blocks blocks' : Multiset Block} {claimed : Nat → List Nat} {pending pending' : Multiset Mapping}

theorem Sound.apart (hs : h.Sound blocks claimed pending) :
    Mapping.Apart (h.mappings + blocks.bind Block.own + pending) := by
  rw [← hs.mapped]
  exact hs.os.apart

theorem Sound.apart_pool (hs : h.Sound blocks claimed pending) (k : Nat) : Mapping.Apart (h.pool k).mappings := by
  refine hs.apart.mono ((mappings_le h k).trans ?_)
  rw [add_assoc]
  exact Multiset.le_add_right _ _

theorem Sound.held_mem (hs : h.Sound blocks claimed pending) {b : Block} (hb : b ∈ blocks) (hk : b.pool = some k) :
    b.address ∈ (h.pool k).held := by
  rw [← hs.held k]
  exact Block.mem_addresses hk hb

/-- **The blocks in use that are from a pool** have different addresses. -/
theorem Sound.addresses_nodup (hs : h.Sound blocks claimed pending) (k : Nat) : (Block.addresses blocks k).Nodup := by
  rw [hs.held k]
  exact Multiset.nodup_of_le (hs.pools k).held_le_grid ((hs.pools k).grid_nodup (hs.apart_pool k))

/-- A pool that may have arenas is in the table. -/
theorem lt_size (hpos : 0 < (h.pool k).maxArenas) : k < h.pools.size := by
  rcases Nat.lt_or_ge k h.pools.size with hk | hk
  · exact hk
  · rw [pool_of_le hk] at hpos
    exact absurd hpos (Nat.lt_irrefl 0)

/-! ## Work in one pool -/

/-- **A pool changes**, and with it the blocks that it holds, the slots claimed in it and the mappings that it has. -/
theorem Sound.setPool (hs : h.Sound blocks claimed pending) (hk : k < h.pools.size) (blocks' : Multiset Block)
    (pending' : Multiset Mapping) {slots : List Nat} (hq : q.Sound slots) (hheld : Block.addresses blocks' k = q.held)
    (hother : ∀ j, j ≠ k → Block.addresses blocks' j = Block.addresses blocks j)
    (hown : blocks'.bind Block.own = blocks.bind Block.own)
    (hmap : q.mappings + pending' = (h.pool k).mappings + pending)
    (hhoused : ∀ b ∈ blocks', b.pool = none → b ∈ blocks) :
    (h.setPool k q).Sound blocks' (Function.update claimed k slots) pending' where
  os := hs.os
  pools j := by
    rw [pool_setPool hk]
    by_cases hj : j = k
    · subst hj
      simpa using hq
    · simpa [hj] using hs.pools j
  held j := by
    rw [pool_setPool hk]
    by_cases hj : j = k
    · subst hj
      simpa using hheld
    · rw [if_neg hj, hother j hj]
      exact hs.held j
  mapped := by
    obtain ⟨rest, h1, h2, -⟩ := poolSet_eq_cons hk
    have hmapped := hs.mapped
    rw [mappings, h1, Multiset.cons_bind] at hmapped
    rw [mappings, h2, Multiset.cons_bind, hown]
    calc (h.os.space.live : Multiset Mapping)
        = rest.bind Pool.mappings + blocks.bind Block.own + ((h.pool k).mappings + pending) := by rw [hmapped]; abel
      _ = rest.bind Pool.mappings + blocks.bind Block.own + (q.mappings + pending') := by rw [hmap]
      _ = q.mappings + rest.bind Pool.mappings + blocks.bind Block.own + pending' := by abel
  housed b hb hpool := hs.housed b (hhoused b hb hpool) hpool

/-- Work in existing arenas that changes no block. -/
theorem Sound.keep (hs : h.Sound blocks claimed pending) (hq : q.Sound (claimed k)) (hkept : (h.pool k).Kept q)
    (hheld : q.held = (h.pool k).held) : (h.setPool k q).Sound blocks claimed pending := by
  rcases Nat.lt_or_ge k h.pools.size with hk | hk
  · have hset := hs.setPool hk blocks pending hq ((hs.held k).trans hheld.symm) (fun _ _ => rfl) rfl
      (by rw [hkept.mappings]) fun b hb _ => hb
    rwa [Function.update_eq_self] at hset
  · rw [setPool_of_le hk]
    exact hs

/-- **A block is taken** from existing arenas. -/
theorem Sound.take (hs : h.Sound blocks claimed pending) (hq : q.Sound (claimed k)) (hkept : (h.pool k).Kept q)
    {x : Nat} (hheld : q.held = x ::ₘ (h.pool k).held) (bytes : Nat) :
    (h.setPool k q).Sound (⟨some k, x, bytes⟩ ::ₘ blocks) claimed pending := by
  have hpos : 0 < (h.pool k).maxArenas := by
    rw [← hkept.maxArenas]
    exact hq.limit_pos (x := x) (by rw [hheld]; exact Multiset.mem_cons_self _ _)
  have hset := hs.setPool (lt_size hpos) (⟨some k, x, bytes⟩ ::ₘ blocks) pending hq ?_ ?_ ?_ ?_ ?_
  · rwa [Function.update_eq_self] at hset
  · rw [Block.addresses_cons_self rfl, hs.held k, hheld]
  · intro j hj
    exact Block.addresses_cons_of_ne (by simpa using hj.symm) _
  · rw [Multiset.cons_bind, Block.own_some rfl, zero_add]
  · rw [hkept.mappings]
  · intro b hb hpool
    rcases Multiset.mem_cons.mp hb with rfl | hb
    · cases hpool
    · exact hb

/-- **A block is given back.** -/
theorem Sound.give {b : Block} (hs : h.Sound (b ::ₘ blocks) claimed pending) (hb : b.pool = some k) :
    ∃ q, (h.pool k).deallocate b.address = (.ok (), q) ∧ (h.pool k).Kept q ∧
      (h.setPool k q).Sound blocks claimed pending := by
  have hx := hs.held_mem (Multiset.mem_cons_self b blocks) hb
  obtain ⟨q, h1, h2, h3, h4⟩ := (hs.pools k).deallocate_spec (hs.apart_pool k) hx
  have hset := hs.setPool (lt_size ((hs.pools k).limit_pos hx)) blocks pending h2 ?_ ?_ ?_ ?_ ?_
  · rw [Function.update_eq_self] at hset
    exact ⟨q, h1, h3, hset⟩
  · have hheld := hs.held k
    rw [Block.addresses_cons_self hb, h4] at hheld
    exact (Multiset.cons_inj_right _).mp hheld
  · intro j hj
    exact (Block.addresses_cons_of_ne (by simpa [hb] using hj.symm) _).symm
  · rw [Multiset.cons_bind, Block.own_some hb, zero_add]
  · rw [h3.mappings]
  · intro c hc _
    exact Multiset.mem_cons_of_mem hc

/-- The next slot of a pool is claimed. -/
theorem Sound.claim (hs : h.Sound blocks claimed pending) (hlt : (h.pool k).count < (h.pool k).maxArenas) :
    (h.setPool k { h.pool k with count := (h.pool k).count + 1 }).Sound blocks
      (Function.update claimed k ((h.pool k).count :: claimed k)) pending :=
  hs.setPool (lt_size (Nat.zero_lt_of_lt hlt)) blocks pending ((hs.pools k).claim hlt) (hs.held k) (fun _ _ => rfl)
    rfl rfl fun _ hb _ => hb

/-- Claiming a slot and then no longer claiming it. -/
theorem update_erase (claimed : Nat → List Nat) (k i : Nat) :
    Function.update (Function.update claimed k (i :: claimed k)) k
      ((Function.update claimed k (i :: claimed k) k).erase i) = claimed := by
  rw [Function.update_idem, Function.update_self, List.erase_cons_head, Function.update_eq_self]

theorem Sound.limit_pos_of_claimed {i : Nat} (hs : h.Sound blocks claimed pending) (hi : i ∈ claimed k) :
    0 < (h.pool k).maxArenas :=
  Nat.zero_lt_of_lt (Nat.lt_of_lt_of_le ((hs.pools k).slots.lt_count i hi) (hs.pools k).slots.count_le)

/-- **A claimed slot is filled** with a fresh arena. -/
theorem Sound.publish {i : Nat} {r : Resident Arena} {g : Arena.Geometry}
    (hs : h.Sound blocks (Function.update claimed k (i :: claimed k)) (r.mappings + pending)) (hr : r.value.Sound g)
    (hsize : r.value.blockSize = (h.pool k).blockSize) (hempty : r.value.taken = ∅) :
    (h.setPool k ((h.pool k).publish i r)).Sound blocks claimed pending := by
  have hi : i ∈ Function.update claimed k (i :: claimed k) k := by simp
  obtain ⟨h1, h2, h3, -⟩ := (hs.pools k).publish_spec hi hr hsize hempty
  have hset := hs.setPool (lt_size (hs.limit_pos_of_claimed hi)) blocks pending h1
    ((hs.held k).trans h2.symm) (fun _ _ => rfl) rfl ?_ fun _ hb _ => hb
  · rwa [update_erase] at hset
  · rw [h3]
    abel

/-- **A claimed slot is given back**, or given up. -/
theorem Sound.giveBack {i : Nat} (hs : h.Sound blocks (Function.update claimed k (i :: claimed k)) pending) :
    (h.setPool k ((h.pool k).giveBack i).2).Sound blocks claimed pending := by
  have hi : i ∈ Function.update claimed k (i :: claimed k) k := by simp
  have harenas := Pool.arenas_giveBack (h.pool k) i
  have hset := hs.setPool (lt_size (hs.limit_pos_of_claimed hi)) blocks pending ((hs.pools k).giveBack hi)
    ((hs.held k).trans (by rw [Pool.held, Pool.held, harenas])) (fun _ _ => rfl) rfl
    (by rw [Pool.mappings, Pool.mappings, harenas]) fun _ hb _ => hb
  rwa [update_erase] at hset

/-! ## Mappings -/

/-- **Asking for a mapping**: one more is in place, for which there is no use yet, or nothing has changed. -/
theorem Sound.map_spec (hs : h.Sound blocks claimed pending) (size : Nat) (refuse : Bool) :
    (∃ m os, h.os.map size refuse = (.ok m, os) ∧ m.len = Size.roundUp size pageSize ∧
      ({ h with os } : Heap).Sound blocks claimed (m ::ₘ pending)) ∨
    (∃ e os, h.os.map size refuse = (.error e, os) ∧ ({ h with os } : Heap).Sound blocks claimed pending) := by
  rcases hs.os.map_spec size refuse with ⟨m, os, h1, h2, h3, h4⟩ | ⟨e, os, h1, h2, h3⟩
  · refine .inl ⟨m, os, h1, h4, h2, hs.pools, hs.held, ?_, hs.housed⟩
    rw [h3, ← Multiset.cons_coe, hs.mapped, Multiset.add_cons]
    rfl
  · refine .inr ⟨e, os, h1, h2, hs.pools, hs.held, ?_, hs.housed⟩
    rw [h3]
    exact hs.mapped

/-- A mapping that has no use yet is in place. -/
theorem Sound.pending_mem (hs : h.Sound blocks claimed pending) {m : Mapping} (hm : m ∈ pending) :
    m ∈ h.os.space.live := by
  rw [← Multiset.mem_coe, hs.mapped]
  exact Multiset.mem_add.mpr (.inr hm)

theorem Sound.fits_pending (hs : h.Sound blocks claimed pending) {m : Mapping} (hm : m ∈ pending) : h.os.Fits m :=
  hs.os.fits m (hs.pending_mem hm)

/-- The mapping of a block is apart from those that have no use yet. -/
theorem Sound.disjoint_pending (hs : h.Sound blocks claimed pending) {b : Block} (hb : b ∈ blocks) (hp : b.pool = none)
    {m : Mapping} (hm : m ∈ pending) : b.mapping.Disjoint m := by
  refine hs.apart _ _ ?_
  have hown : {b.mapping} ≤ blocks.bind Block.own := by
    rw [Multiset.singleton_le]
    exact Multiset.mem_bind.mpr ⟨b, hb, by simp [Block.own_none hp]⟩
  rw [← Multiset.singleton_add]
  exact add_le_add (hown.trans (Multiset.le_add_left _ _)) (Multiset.singleton_le.mpr hm)

/-- **Giving a mapping back** for which there is no use. -/
theorem Sound.unmap {m : Mapping} (hs : h.Sound blocks claimed (m ::ₘ pending)) :
    (h.unmap m).Sound blocks claimed pending := by
  obtain ⟨h1, h2⟩ := hs.os.unmap_spec (hs.pending_mem (Multiset.mem_cons_self m pending))
  refine ⟨h1, hs.pools, hs.held, ?_, fun b hb hp => ?_⟩
  · rw [Heap.unmap, h2, ← Multiset.coe_erase, hs.mapped, Multiset.add_cons, Multiset.erase_cons_head]
    rfl
  · have hdisjoint := hs.disjoint_pending hb hp (Multiset.mem_cons_self m pending)
    obtain ⟨offset, h3, h4, h5⟩ := hs.housed b hb hp
    exact ⟨offset, h3, h4, h5.erase ((hs.housed b hb hp).meets_eq_false h3 hdisjoint _)⟩

/-- **A block gets a mapping** of its own, and the handle is put behind it. -/
theorem Sound.house {m : Mapping} (hs : h.Sound blocks claimed (m ::ₘ pending)) {size offset total : Nat}
    (ho : Oversized.handleOffset? size = some offset) (ht : Oversized.mappingSize? size = some total)
    (hlen : m.len = Size.roundUp total pageSize) :
    ({ h with memory := h.memory.write (m.start + offset) Oversized.handleBytes (.handle m) } : Heap).Sound
      (⟨none, m.start, size⟩ ::ₘ blocks) claimed pending := by
  have hmapping : Block.mapping ⟨none, m.start, size⟩ = m := by
    rw [Block.mapping, ht, Option.getD_some, ← hlen]
  have htotal := Oversized.mappingSize_eq ho ht
  refine ⟨hs.os, hs.pools, fun k => ?_, ?_, fun b hb hp => ?_⟩
  · rw [Block.addresses_cons_of_ne (by simp)]
    exact hs.held k
  · rw [Multiset.cons_bind, Block.own_none rfl, hmapping]
    calc (h.os.space.live : Multiset Mapping)
        = h.mappings + blocks.bind Block.own + ({m} + pending) := hs.mapped
      _ = h.mappings + ({m} + blocks.bind Block.own) + pending := by abel
  · rcases Multiset.mem_cons.mp hb with rfl | hb
    · refine ⟨offset, ho, ht.trans (congrArg some htotal), ?_⟩
      rw [hmapping]
      exact Memory.holds_write _ _ _ _
    · have hdisjoint := hs.disjoint_pending hb hp (Multiset.mem_cons_self m pending)
      obtain ⟨offset', h3, -, h4⟩ := (hs.housed b hb hp).stop_le
      obtain ⟨offset'', h5, h6, h7⟩ := hs.housed b hb hp
      obtain rfl : offset' = offset'' := Option.some.inj (h3.symm.trans h5)
      -- the new handle lies in the new mapping
      have hroom : m.start + offset + Oversized.handleBytes ≤ m.stop := by
        have hpage : 0 < pageSize := by decide
        have hle := Size.le_roundUp hpage total
        rw [Mapping.stop, hlen]
        omega
      have hpart : b.mapping.Disjoint ⟨m.start + offset, Oversized.handleBytes⟩ := by
        unfold Mapping.Disjoint Mapping.stop at *
        dsimp only at *
        omega
      refine ⟨offset', h5, h6, h7.write _ ((hs.housed b hb hp).meets_eq_false h5 hpart _) ?_⟩
      have hstart : b.mapping.start = b.address := rfl
      have hbytes : Oversized.handleBytes = 16 := rfl
      unfold Mapping.Disjoint Mapping.stop at *
      dsimp only at *
      omega

/-- **A block gives its mapping up.** -/
theorem Sound.unhouse {b : Block} (hs : h.Sound (b ::ₘ blocks) claimed pending) (hb : b.pool = none) :
    h.memory.Houses b ∧ h.Sound blocks claimed (b.mapping ::ₘ pending) := by
  refine ⟨hs.housed b (Multiset.mem_cons_self _ _) hb, hs.os, hs.pools, fun k => ?_, ?_, fun c hc hp => ?_⟩
  · rw [← hs.held k, Block.addresses_cons_of_ne (by simp [hb])]
  · have hmapped := hs.mapped
    rw [Multiset.cons_bind, Block.own_none hb] at hmapped
    rw [hmapped, ← Multiset.singleton_add]
    abel
  · exact hs.housed c (Multiset.mem_cons_of_mem hc) hp

end Heap

end BlockHeap
