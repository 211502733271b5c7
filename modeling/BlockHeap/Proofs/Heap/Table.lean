import BlockHeap.Proofs.Heap.Calls
import Mathlib.Data.Multiset.Range

/-!
# Pools are added and dropped

New pools go behind those in the table and change nothing for these (`Sound.addPools`). Dropping a pool leaves the pool
that has nothing in its place, unmaps both mappings of each of its arenas, wherever in the slots they are, and ends the
use of its blocks (`Sound.dropPool`, `Sound.dropPools`). So the mappings of all arenas are those of the pools that were
not dropped (`mappings_eq_bind`).
-/

namespace BlockHeap.Heap

variable {h h' : Heap} {blocks : Multiset Block} {claimed : Nat → List Nat} {pending : Multiset Mapping} {k : Nat}

/-! ## Adding pools -/

theorem size_addPools (h : Heap) (ps : List Pool) : (h.addPools ps).pools.size = h.pools.size + ps.length := by
  simp [addPools]

theorem pool_addPools_of_lt (hk : k < h.pools.size) (ps : List Pool) : (h.addPools ps).pool k = h.pool k := by
  simp [pool, addPools, hk, Array.getElem?_append_left hk]

/-- A number that no old pool has is that of a new pool, or of none. -/
theorem pool_addPools_of_le (hk : h.pools.size ≤ k) (ps : List Pool) :
    (h.addPools ps).pool k ∈ ps ∨ (h.addPools ps).pool k = .vacant := by
  rcases Nat.lt_or_ge k (h.pools.size + ps.length) with hlt | hle
  · refine .inl ?_
    have hget : (h.addPools ps).pool k = ps[k - h.pools.size] := by
      simp [pool, addPools, Array.getElem?_append_right hk, show k - h.pools.size < ps.length by omega]
    rw [hget]
    exact List.getElem_mem _
  · exact .inr (pool_of_le (by rwa [size_addPools]))

/-- New pools without arenas have nothing. -/
theorem pool_addPools {ps : List Pool} (hps : ∀ p ∈ ps, p.arenas = 0) (k : Nat) :
    (h.addPools ps).pool k = h.pool k ∨ ((h.addPools ps).pool k).arenas = 0 := by
  rcases Nat.lt_or_ge k h.pools.size with hlt | hle
  · exact .inl (pool_addPools_of_lt hlt ps)
  · rcases pool_addPools_of_le hle ps with hmem | hvacant
    · exact .inr (hps _ hmem)
    · rw [hvacant]
      exact .inr vacant_sound.2

/-- Pools that have nothing need no places for data. -/
theorem Housed.of_pool (hh : h.Housed) (hpool : ∀ k, h'.pool k = h.pool k ∨ (h'.pool k).arenas = 0) : h'.Housed := by
  intro k m hm
  rcases hpool k with heq | hnone
  · rw [heq] at hm
    exact hh k m hm
  · rw [Pool.headers, hnone] at hm
    cases hm

/-- Where no pool is, no slot is claimed. -/
theorem Sound.claimed_of_le (hs : h.Sound blocks claimed pending) (hk : h.pools.size ≤ k) : claimed k = [] := by
  refine List.eq_nil_iff_forall_not_mem.mpr fun i hi => ?_
  have hpos := hs.limit_pos_of_claimed hi
  rw [pool_of_le hk] at hpos
  exact absurd hpos (Nat.lt_irrefl 0)

theorem mappings_addPools {ps : List Pool} (hps : ∀ p ∈ ps, p.arenas = 0) : (h.addPools ps).mappings = h.mappings := by
  have hset : (h.addPools ps).poolSet = h.poolSet + (ps : Multiset Pool) := by
    simp [poolSet, addPools]
  rw [mappings, hset, Multiset.add_bind, mappings]
  refine add_eq_left.mpr ((Multiset.bind_congr fun p hp => ?_).trans (Multiset.bind_zero _))
  rw [Pool.mappings, hps p hp, Multiset.zero_bind]

/-- **New pools** are nothing to those that are there. -/
theorem Sound.addPools (hs : h.Sound blocks claimed pending) {ps : List Pool}
    (hps : ∀ p ∈ ps, p.Sound [] ∧ p.arenas = 0) : (h.addPools ps).Sound blocks claimed pending := by
  have hnew : ∀ {k}, h.pools.size ≤ k → ((h.addPools ps).pool k).Sound [] ∧ ((h.addPools ps).pool k).arenas = 0 := by
    intro k hk
    rcases pool_addPools_of_le hk ps with hmem | hvacant
    · exact hps _ hmem
    · rw [hvacant]
      exact vacant_sound
  refine ⟨hs.os, fun k => ?_, fun k => ?_, ?_, hs.housed⟩
  · rcases Nat.lt_or_ge k h.pools.size with hk | hk
    · rw [pool_addPools_of_lt hk]
      exact hs.pools k
    · rw [hs.claimed_of_le hk]
      exact (hnew hk).1
  · rcases Nat.lt_or_ge k h.pools.size with hk | hk
    · rw [pool_addPools_of_lt hk]
      exact hs.held k
    · rw [hs.held k, pool_of_le hk, Pool.held, Pool.held, vacant_sound.2, (hnew hk).2]
  · rw [mappings_addPools fun p hp => (hps p hp).2]
    exact hs.mapped

/-! ## Dropping pools -/

/-- Blocks from pools have no mappings of their own. -/
theorem bind_own_filter {p : Block → Prop} [DecidablePred p] (hp : ∀ b, ¬p b → b.own = 0)
    {blocks : Multiset Block} : (blocks.filter p).bind Block.own = blocks.bind Block.own := by
  have hout : (blocks.filter (¬p ·)).bind Block.own = 0 :=
    (Multiset.bind_congr fun b hb => hp b (Multiset.mem_filter.mp hb).2).trans (Multiset.bind_zero _)
  conv_rhs => rw [← Multiset.filter_add_not p blocks, Multiset.add_bind, hout, add_zero]

theorem pool_vacate (h : Heap) (k j : Nat) : (h.setPool k .vacant).pool j = if j = k then .vacant else h.pool j := by
  rcases Nat.lt_or_ge k h.pools.size with hk | hk
  · exact pool_setPool hk _ j
  · rw [setPool_of_le hk]
    split
    · rename_i hj
      rw [hj, pool_of_le hk]
    · rfl

/-- What a release of mappings leaves as it was. -/
structure Same (h h' : Heap) : Prop where
  pools : h'.pools = h.pools
  stray : h'.os.space.stray = h.os.space.stray

/-- **Unmapping arenas** for which there is no use. -/
theorem Sound.unmapArenas (rs : List (Resident Arena)) : ∀ {h : Heap},
    h.Sound blocks claimed ((rs : Multiset (Resident Arena)).bind Resident.mappings + pending) →
    (rs.foldl unmapArena h).Sound blocks claimed pending ∧ h.Same (rs.foldl unmapArena h) := by
  induction rs with
  | nil =>
    intro h hs
    rw [Multiset.coe_nil, Multiset.zero_bind, zero_add] at hs
    exact ⟨hs, rfl, rfl⟩
  | cons r rs ih =>
    intro h hs
    rw [← Multiset.cons_coe, Multiset.cons_bind, Resident.mappings, Multiset.cons_add, Multiset.cons_add,
      Multiset.singleton_add, Multiset.cons_add] at hs
    obtain ⟨h1, h2⟩ := ih hs.unmap.unmap
    have hstray : (h.unmapArena r).os.space.stray = h.os.space.stray :=
      (Os.unmap_stray (hs.unmap.pending_mem (Multiset.mem_cons_self _ _))).trans
        (Os.unmap_stray (hs.pending_mem (Multiset.mem_cons_self _ _)))
    exact ⟨h1, h2.pools, h2.stray.trans hstray⟩

/-- Nothing is in use where there is no pool. -/
theorem Sound.pool_ne_of_le (hs : h.Sound blocks claimed pending) (hk : h.pools.size ≤ k) {b : Block}
    (hb : b ∈ blocks) : b.pool ≠ some k := by
  intro hp
  have hx := Block.mem_addresses hp hb
  rw [hs.held k, pool_of_le hk, Pool.held, vacant_sound.2] at hx
  cases hx

/-- A pool gives all its arenas up. -/
theorem Sound.vacate (hs : h.Sound blocks claimed pending) (hk : claimed k = []) :
    (h.setPool k .vacant).Sound (blocks.filter (·.pool ≠ some k)) claimed ((h.pool k).mappings + pending) := by
  rcases Nat.lt_or_ge k h.pools.size with hlt | hle
  · have hset := hs.setPool hlt (blocks.filter (·.pool ≠ some k)) ((h.pool k).mappings + pending) vacant_sound.1
      ?_ ?_ ?_ ?_ ?_
    · rwa [← hk, Function.update_eq_self] at hset
    · rw [Pool.held, vacant_sound.2, Block.addresses, Multiset.filter_filter]
      simp
    · intro j hj
      rw [Block.addresses, Multiset.filter_filter, Block.addresses]
      refine congrArg _ (Multiset.filter_congr fun b _ => and_iff_left_of_imp fun hb => ?_)
      rw [hb]
      simpa using hj
    · exact bind_own_filter fun b hb => Block.own_some (not_not.mp hb)
    · rw [Pool.mappings, vacant_sound.2, Multiset.zero_bind, zero_add]
    · exact fun b hb _ => Multiset.mem_of_mem_filter hb
  · rw [setPool_of_le hle, pool_of_le hle, Pool.mappings, vacant_sound.2, Multiset.zero_bind, zero_add,
      Multiset.filter_eq_self.mpr fun b hb => hs.pool_ne_of_le hle hb]
    exact hs

/-- What dropping a pool leaves. -/
theorem Sound.dropPool (hs : h.Sound blocks claimed pending) (hk : claimed k = []) :
    (h.dropPool k).Sound (blocks.filter (·.pool ≠ some k)) claimed pending ∧
      (h.setPool k .vacant).Same (h.dropPool k) :=
  Sound.unmapArenas _ (hs.vacate hk)

/-- **Dropping pools** in which no slot is claimed. -/
theorem Sound.dropPools (ks : List Nat) : ∀ {h : Heap} {blocks : Multiset Block}, h.Sound blocks claimed pending →
    (∀ k ∈ ks, claimed k = []) →
    (ks.foldl Heap.dropPool h).Sound (blocks.filter fun b => ∀ k ∈ ks, b.pool ≠ some k) claimed pending ∧
      (ks.foldl Heap.dropPool h).pools.size = h.pools.size ∧
      (ks.foldl Heap.dropPool h).os.space.stray = h.os.space.stray ∧
      ∀ j, (ks.foldl Heap.dropPool h).pool j = if j ∈ ks then .vacant else h.pool j := by
  induction ks with
  | nil =>
    intro h blocks hs _
    simpa using hs
  | cons k ks ih =>
    intro h blocks hs hks
    obtain ⟨h1, h2⟩ := hs.dropPool (hks k List.mem_cons_self)
    obtain ⟨k1, k2, k3, k4⟩ := ih h1 fun j hj => hks j (List.mem_cons_of_mem k hj)
    refine ⟨?_, ?_, k3.trans h2.stray, fun j => ?_⟩
    · rw [Multiset.filter_filter] at k1
      simpa [List.forall_mem_cons, and_comm] using k1
    · exact k2.trans ((congrArg Array.size h2.pools).trans (size_setPool _))
    · rw [List.foldl_cons, k4 j, show (h.dropPool k).pool j = (h.setPool k .vacant).pool j by
        rw [pool, h2.pools, pool], pool_vacate]
      by_cases hj : j = k <;> simp [hj]

/-! ## The mappings of pools by number -/

theorem poolSet_eq_map (h : Heap) : h.poolSet = (Multiset.range h.pools.size).map h.pool := by
  rw [poolSet, Multiset.range, Multiset.map_coe]
  refine congrArg _ (List.ext_getElem (by simp) fun i h1 h2 => ?_)
  simp only [List.getElem_map, List.getElem_range, Array.getElem_toList, pool, Array.getD_eq_getD_getElem?,
    Array.getElem?_eq_getElem (show i < h.pools.size by simpa using h1), Option.getD_some]

/-- **The mappings of all arenas** are those of the pools that have arenas. -/
theorem mappings_eq_bind {ks : Multiset Nat} (hnodup : ks.Nodup) (hlt : ∀ k ∈ ks, k < h.pools.size)
    (hidle : ∀ k, k ∉ ks → (h.pool k).arenas = 0) : h.mappings = ks.bind fun k => (h.pool k).mappings := by
  have hin : (Multiset.range h.pools.size).filter (· ∈ ks) = ks := by
    refine (Multiset.Nodup.ext ((Multiset.nodup_range _).filter _) hnodup).mpr fun k => ?_
    rw [Multiset.mem_filter, Multiset.mem_range]
    exact and_iff_right_of_imp (hlt k)
  have hout : ((Multiset.range h.pools.size).filter (· ∉ ks)).bind (fun k => (h.pool k).mappings) = 0 := by
    refine (Multiset.bind_congr fun k hk => ?_).trans (Multiset.bind_zero _)
    rw [Pool.mappings, hidle k (Multiset.mem_filter.mp hk).2, Multiset.zero_bind]
  calc h.mappings
      = (Multiset.range h.pools.size).bind fun k => (h.pool k).mappings := by
        rw [mappings, poolSet_eq_map, Multiset.bind_map]
    _ = ((Multiset.range h.pools.size).filter (· ∈ ks)).bind (fun k => (h.pool k).mappings) +
          ((Multiset.range h.pools.size).filter (· ∉ ks)).bind (fun k => (h.pool k).mappings) := by
        rw [← Multiset.add_bind, Multiset.filter_add_not]
    _ = ks.bind fun k => (h.pool k).mappings := by rw [hin, hout, add_zero]

end BlockHeap.Heap
