import BlockHeap.Proofs.Arena.Geometry
import BlockHeap.Proofs.FreeMap.Refinement

/-!
# Searches starve no region

The region at which a search starts moves on by one with each search. So among as many searches as there are regions
one starts at any given region, and takes a block there, if none of the others has taken the last one before
(`serveAll_fair`).

When the counter of the searches goes round at `2 ^ 64`, the start moves on by one only if the number of regions divides
`2 ^ 64`. It does for every arena, because the sizes of blocks are powers of two (`regionCount_pow`). It need not for
other free maps: with three regions the start stays where it is when the counter goes round, and a region with a free
block is passed over (`serveAll_unfair`).
-/

namespace BlockHeap

/-! ## The starts of searches -/

/-- Among `n` numbers in a row each remainder occurs. -/
theorem Size.exists_add_mod_eq {n r : Nat} (c : Nat) (hr : r < n) : ∃ t < n, (c + t) % n = r := by
  have hn : 0 < n := Nat.zero_lt_of_lt hr
  have hd := Nat.mod_lt c hn
  have hc := Nat.div_add_mod c n
  rcases Nat.lt_or_ge r (c % n) with hlt | hge
  · refine ⟨r + n - c % n, by omega, ?_⟩
    have heq : c + (r + n - c % n) = r + n * (c / n + 1) := by
      rw [Nat.mul_add, Nat.mul_one]
      omega
    rw [heq, Nat.add_mul_mod_self_left, Nat.mod_eq_of_lt hr]
  · refine ⟨r - c % n, by omega, ?_⟩
    have heq : c + (r - c % n) = r + n * (c / n) := by omega
    rw [heq, Nat.add_mul_mod_self_left, Nat.mod_eq_of_lt hr]

/-- **Each region is the start** of one of as many searches as there are regions, if the counter does not go round
meanwhile or the number of regions is a power of two. -/
theorem FreeMap.exists_start {regions c r : Nat} (hr : r < regions) (hle : regions ≤ 2 ^ 64)
    (h : c + regions ≤ 2 ^ 64 ∨ ∃ e, regions = 2 ^ e) : ∃ t < regions, (c + t) % 2 ^ 64 % regions = r := by
  obtain ⟨t, ht, hmod⟩ := Size.exists_add_mod_eq c hr
  refine ⟨t, ht, ?_⟩
  rcases h with hlow | ⟨e, rfl⟩
  · rw [Nat.mod_eq_of_lt (by omega : c + t < 2 ^ 64), hmod]
  · have he : e ≤ 64 := (Nat.pow_le_pow_iff_right (by decide)).mp hle
    rw [Nat.mod_mod_of_dvd _ (Nat.pow_dvd_pow 2 he), hmod]

/-- Whether a request is one for a block. -/
def FreeMap.Request.isClaim : FreeMap.Request → Bool
  | .release _ => false
  | .claim => true

namespace FreeSet

open FreeMap (Request choice cyclic blocksPerRegion)

variable {s : FreeSet} {blockCount regions r : Nat}

/-- A region has a free block. -/
def Has (s : FreeSet) (r : Nat) : Prop := ∃ i ∈ s.members, i / blocksPerRegion = r

/-- A search that starts at a region with a free block takes one there. -/
theorem Has.choice (h : s.Has r) (hr : r < regions) :
    ∃ i, choice s.members regions r = some i ∧ i / blocksPerRegion = r := by
  obtain ⟨i, hi, hregion⟩ := h
  have hfound : ((List.range' (r * blocksPerRegion) blocksPerRegion).find? (· ∈ s.members)).isSome := by
    refine List.find?_isSome.mpr ⟨i, ?_, by simpa using hi⟩
    rw [List.mem_range'_1]
    unfold blocksPerRegion FreeMap.wordsPerRegion FreeMap.bitsPerWord at *
    omega
  obtain ⟨j, hj⟩ := Option.isSome_iff_exists.mp hfound
  obtain ⟨regions, rfl⟩ := Nat.exists_eq_succ_of_ne_zero (Nat.ne_zero_of_lt hr)
  refine ⟨j, ?_, ?_⟩
  · rw [FreeMap.choice, cyclic, List.range_succ_eq_map, List.map_cons, Nat.add_zero, Nat.mod_eq_of_lt hr,
      List.findSome?_cons, hj]
  · have hmem := List.mem_of_find?_eq_some hj
    rw [List.mem_range'_1] at hmem
    unfold blocksPerRegion FreeMap.wordsPerRegion FreeMap.bitsPerWord at *
    omega

/-- The counter after a request. -/
theorem serve_searches (s : FreeSet) (blockCount regions : Nat) (q : Request) :
    (s.serve blockCount regions q).2.searches = if q.isClaim then (s.searches + 1) % 2 ^ 64 else s.searches := by
  cases q with
  | release i =>
    simp only [serve, release, Request.isClaim]
    split
    · rfl
    · split <;> rfl
  | claim =>
    simp only [serve, claim, Request.isClaim]
    split <;> rfl

/-- **One request**: a region keeps a free block unless a block of the region is the answer. -/
theorem Has.serve (h : s.Has r) (blockCount regions : Nat) (q : Request) :
    (∃ i, (s.serve blockCount regions q).1 = .ok (some i) ∧ i / blocksPerRegion = r) ∨
      (s.serve blockCount regions q).2.Has r := by
  obtain ⟨i, hi, hregion⟩ := h
  cases q with
  | release j =>
    right
    simp only [FreeSet.serve, release]
    split
    · exact ⟨i, hi, hregion⟩
    · split
      · exact ⟨i, hi, hregion⟩
      · exact ⟨i, Finset.mem_insert_of_mem hi, hregion⟩
  | claim =>
    simp only [FreeSet.serve, claim]
    split
    · exact .inr ⟨i, hi, hregion⟩
    · rename_i j _
      by_cases hj : j / blocksPerRegion = r
      · exact .inl ⟨j, rfl, hj⟩
      · exact .inr ⟨i, Finset.mem_erase.mpr ⟨fun he => hj (he ▸ hregion), hi⟩, hregion⟩

/-- **A list of requests**: when one of its searches starts at a region with a free block, a block of the region is
among the answers. Here `t` counts the searches before that one. -/
theorem Has.serveAll (qs : List Request) : ∀ {s : FreeSet} {t : Nat}, s.Has r → s.searches < 2 ^ 64 → r < regions →
    t < qs.countP (·.isClaim) → (s.searches + t) % 2 ^ 64 % regions = r →
    ∃ i, .ok (some i) ∈ (s.serveAll blockCount regions qs).1 ∧ i / blocksPerRegion = r := by
  induction qs with
  | nil => intro s t _ _ _ ht; simp at ht
  | cons q qs ih =>
    intro s t h hs hr ht hstart
    rcases h.serve blockCount regions q with ⟨i, hi, hregion⟩ | hnext
    · exact ⟨i, hi ▸ List.mem_cons_self, hregion⟩
    · have hsearches := serve_searches s blockCount regions q
      have hlater (t' : Nat) (h1 : (s.serve blockCount regions q).2.searches < 2 ^ 64)
          (h2 : t' < qs.countP (·.isClaim))
          (h3 : ((s.serve blockCount regions q).2.searches + t') % 2 ^ 64 % regions = r) :
          ∃ i, .ok (some i) ∈ (s.serveAll blockCount regions (q :: qs)).1 ∧ i / blocksPerRegion = r := by
        obtain ⟨i, hi, hregion⟩ := ih hnext h1 hr h2 h3
        exact ⟨i, List.mem_cons_of_mem _ hi, hregion⟩
      cases q with
      | release j =>
        rw [List.countP_cons_of_neg (by simp [Request.isClaim])] at ht
        exact hlater t (hsearches ▸ hs) ht (hsearches ▸ hstart)
      | claim =>
        rw [List.countP_cons_of_pos (by rfl)] at ht
        have hsucc : (s.serve blockCount regions .claim).2.searches = (s.searches + 1) % 2 ^ 64 := hsearches
        cases t with
        | zero =>
          -- this is the search that starts at the region
          rw [Nat.add_zero, Nat.mod_eq_of_lt hs] at hstart
          obtain ⟨i, hi, hregion⟩ := h.choice hr
          have hserve : (s.serve blockCount regions .claim).1 = .ok (some i) := by
            simp only [FreeSet.serve, claim, hstart, hi]
          exact ⟨i, hserve ▸ List.mem_cons_self, hregion⟩
        | succ t =>
          refine hlater t (hsucc ▸ Nat.mod_lt _ (by decide)) (Nat.lt_of_succ_lt_succ ht) ?_
          rw [hsucc, Nat.mod_add_mod, Nat.add_assoc, Nat.add_comm 1 t]
          exact hstart

/-- Searches that find nothing only move the counter on. -/
theorem serveAll_replicate_claim (n : Nat) : ∀ {c : Nat} {qs : List Request}, c + n < 2 ^ 64 →
    (serveAll ⟨∅, c⟩ blockCount regions (List.replicate n Request.claim ++ qs)).2 =
      (serveAll ⟨∅, c + n⟩ blockCount regions qs).2 := by
  induction n with
  | zero => intro c qs _; rfl
  | succ n ih =>
    intro c qs h
    have hserve : serve ⟨∅, c⟩ blockCount regions .claim = (.ok none, ⟨∅, c + 1⟩) := by
      have hnone : choice ∅ regions (c % regions) = none := by simp [FreeMap.choice]
      simp only [serve, claim, hnone, Nat.mod_eq_of_lt (by omega : c + 1 < 2 ^ 64)]
    rw [List.replicate_succ, List.cons_append, serveAll, hserve, Nat.add_comm n 1, ← Nat.add_assoc]
    exact ih (by omega)

end FreeSet

/-! ## The regions of arenas -/

/-- **The number of regions of an arena** is a power of two, whatever the size of its blocks. -/
theorem Arena.Geometry.regionCount_pow {size : Nat} {g : Geometry} (h : ofBlockSize size = .ok g) :
    ∃ e, g.shape.regionCount = 2 ^ e := by
  obtain ⟨hpow, hle⟩ := isPowerOfTwo_of_ofBlockSize h
  obtain ⟨s, hs, hg⟩ := ofBlockSize_eq hpow hle
  rw [hg] at h
  cases h
  obtain ⟨e, rfl⟩ := Size.exists_pow_of_isPowerOfTwo hpow
  have he : e ≤ 25 := (Nat.pow_le_pow_iff_right (by decide)).mp hle
  have hblocks : regionBytes / 2 ^ e = 2 ^ (26 - e) :=
    Nat.pow_div (show e ≤ 26 by omega) (show 0 < 2 by decide)
  refine ⟨26 - e - 6 - 6, ?_⟩
  rw [FreeMap.Shape.regionCount, hs, hblocks]
  exact (congrArg (Size.ceilDiv · (2 ^ 6)) (Size.ceilDiv_pow (26 - e) 6)).trans (Size.ceilDiv_pow _ 6)

namespace FreeMap

/-- The regions of a shape for a number of blocks that is a size are few enough. -/
theorem Shape.regionCount_le_limit {n : Nat} (h : n < 2 ^ 64) {hpos : 0 < Size.ceilDiv n bitsPerWord} :
    Shape.regionCount ⟨Size.ceilDiv n bitsPerWord, hpos⟩ ≤ 2 ^ 64 := by
  calc
    Shape.regionCount ⟨Size.ceilDiv n bitsPerWord, hpos⟩ ≤ Size.ceilDiv n bitsPerWord :=
      Shape.regionCount_le_wordCount _
    _ ≤ n := Size.ceilDiv_le_self (by decide) n
    _ ≤ 2 ^ 64 := Nat.le_of_lt h

/-- Requests to a free map whose counter has been moved on by `n` searches that found nothing. -/
theorem serveAll_late {s : Shape} {blockCount n : Nat} {m : FreeMap} (h : create s blockCount = .ok m)
    (hn : n < 2 ^ 64) (qs : List Request) :
    (m.serveAll (List.replicate n Request.claim ++ qs)).2.Exact ∧
      (m.serveAll (List.replicate n Request.claim ++ qs)).2.shape = s ∧
      (m.serveAll (List.replicate n Request.claim ++ qs)).2.blockCount = blockCount ∧
      (m.serveAll (List.replicate n Request.claim ++ qs)).2.toSet =
        (FreeSet.serveAll ⟨∅, n⟩ blockCount s.regionCount qs).2 := by
  have hfit : blockCount ≤ s.wordCount * bitsPerWord := by
    by_contra hlarge
    rw [create, dif_neg hlarge] at h
    cases h
  obtain ⟨m', h1, h2, h3, h4, h5, h6⟩ := create_spec hfit
  obtain rfl : m' = m := Except.ok.inj (h1.symm.trans h)
  obtain ⟨-, k2, k3, k4⟩ := h2.serveAll_toSet (List.replicate n Request.claim ++ qs)
  refine ⟨k2, k4.shape.trans h4, k4.blockCount.trans h5, ?_⟩
  have hempty : m'.toSet = ⟨∅, 0⟩ := by
    rw [toSet, h3, h6]
    rfl
  rw [k3, hempty, h4, h5, FreeSet.serveAll_replicate_claim n (by rwa [Nat.zero_add]), Nat.zero_add]

/-- **Searches starve no region.** A free map, of the shape for `n` blocks and with as many blocks as its words have
bits or fewer, has served requests, and region `r` has a free block. Among the answers to the next requests, as many of
them for blocks as there are regions, is a block of the region, whatever is given back between them, if the counter of
the searches does not go round meanwhile or the number of regions is a power of two. For the arenas of every block size
it is one. -/
theorem serveAll_fair {n blockCount : Nat} (hn : 1 ≤ n) (hlt : n < 2 ^ 64)
    (hle : blockCount ≤ Size.roundUp n bitsPerWord) (before : List Request) :
    (∃ s m₀, Shape.ofBlocks n = .ok s ∧ create s blockCount = .ok m₀ ∧
      ∀ r, (∃ i, (m₀.serveAll before).2.isFree i = true ∧ i / blocksPerRegion = r) →
        ∀ qs : List Request, qs.countP (·.isClaim) = s.regionCount →
          ((m₀.serveAll before).2.searches.toNat + s.regionCount ≤ 2 ^ 64 ∨ ∃ e, s.regionCount = 2 ^ e) →
          ∃ i, .ok (some i) ∈ ((m₀.serveAll before).2.serveAll qs).1 ∧ i / blocksPerRegion = r) ∧
    ∀ size g, Arena.Geometry.ofBlockSize size = .ok g → ∃ e, g.shape.regionCount = 2 ^ e := by
  refine ⟨?_, fun size g => Arena.Geometry.regionCount_pow⟩
  have hpos : 0 < Size.ceilDiv n bitsPerWord := Shape.ceilDiv_pos hn (by decide)
  obtain ⟨m₀, h1, h2, -, h4, h5, -⟩ := create_spec (s := ⟨Size.ceilDiv n bitsPerWord, hpos⟩) hle
  refine ⟨_, m₀, dif_pos hn, h1, ?_⟩
  rintro r ⟨i, hfree, hregion⟩ qs hclaims hround
  obtain ⟨-, hm, -, halike⟩ := h2.serveAll_toSet before
  generalize (m₀.serveAll before).2 = m at *
  have hshape : m.shape.regionCount = Shape.regionCount ⟨Size.ceilDiv n bitsPerWord, hpos⟩ := by
    rw [halike.shape, h4]
  have hr : r < m.shape.regionCount := hregion ▸ region_lt_of_isFree hfree
  rw [← hshape] at hclaims hround
  obtain ⟨t, ht, hstart⟩ := exists_start hr (hshape ▸ Shape.regionCount_le_limit hlt) hround
  obtain ⟨hanswers, -⟩ := hm.serveAll_toSet qs
  rw [hanswers]
  exact FreeSet.Has.serveAll qs ⟨i, mem_freeSet.mpr hfree, hregion⟩ m.searches.toNat_lt hr (hclaims ▸ ht) hstart

/-- The counter stands at its end when both regions of a free map get a free block. The block of the second one is taken
and given back before a search starts at the first one. -/
theorem serveAll_fair_two_regions :
    1 ≤ 5000 ∧ 5000 < 2 ^ 64 ∧ 4999 ≤ Size.roundUp 5000 bitsPerWord ∧
    ∃ s m₀, Shape.ofBlocks 5000 = .ok s ∧ create s 4999 = .ok m₀ ∧
      (m₀.serveAll (List.replicate (2 ^ 64 - 1) .claim ++ [.release 7, .release 4998])).2.isFree 7 = true ∧
      ([.claim, .release 4998, .claim] : List Request).countP (·.isClaim) = s.regionCount ∧ s.regionCount = 2 ^ 1 ∧
      ∃ i, .ok (some i) ∈
        ((m₀.serveAll (List.replicate (2 ^ 64 - 1) .claim ++ [.release 7, .release 4998])).2.serveAll
          [.claim, .release 4998, .claim]).1 ∧ i / blocksPerRegion = 0 := by
  obtain ⟨⟨s, m₀, h1, h2, h3⟩, -⟩ := @serveAll_fair 5000 4999 (by decide) (by decide) (by decide)
    (List.replicate (2 ^ 64 - 1) .claim ++ [.release 7, .release 4998])
  obtain rfl : s = ⟨79, by decide⟩ := (Except.ok.inj h1).symm
  have hregions : Shape.regionCount ⟨79, by decide⟩ = 2 := by decide
  obtain ⟨-, -, -, hset⟩ := serveAll_late h2 (n := 2 ^ 64 - 1) (by decide) [.release 7, .release 4998]
  have hlate : FreeSet.serveAll ⟨∅, 2 ^ 64 - 1⟩ 4999 2 [.release 7, .release 4998] =
      ([.ok none, .ok none], ⟨{4998, 7}, 2 ^ 64 - 1⟩) := by
    decide +kernel
  have hfree : (m₀.serveAll (List.replicate (2 ^ 64 - 1) .claim ++ [.release 7, .release 4998])).2.isFree 7 = true := by
    rw [hregions, hlate] at hset
    rw [← mem_freeSet, show FreeMap.freeSet _ = _ from congrArg FreeSet.members hset]
    decide
  exact ⟨by decide, by decide, by decide, _, m₀, h1, h2, hfree, by decide, by decide,
    h3 0 ⟨7, hfree, by decide⟩ _ (by decide) (.inr ⟨1, by decide⟩)⟩

/-- **Where the number of regions is no power of two**, a region may have to wait for longer when the counter goes
round: the third one has a free block here, and three searches in a row take blocks of the other two. -/
theorem serveAll_unfair :
    ∃ s m₀, Shape.ofBlocks 12288 = .ok s ∧ create s 12288 = .ok m₀ ∧ s.regionCount = 3 ∧
      (m₀.serveAll (List.replicate (2 ^ 64 - 1) .claim ++
        [.release 0, .release 1, .release 4096, .release 8192])).2.isFree 8192 = true ∧
      ((m₀.serveAll (List.replicate (2 ^ 64 - 1) .claim ++
        [.release 0, .release 1, .release 4096, .release 8192])).2.serveAll [.claim, .claim, .claim]).1 =
          [.ok (some 0), .ok (some 1), .ok (some 4096)] := by
  obtain ⟨m₀, h1, -⟩ := create_spec (s := ⟨192, by decide⟩) (n := 12288) (by decide)
  obtain ⟨hm, hshape, hcount, hset⟩ := serveAll_late h1 (n := 2 ^ 64 - 1) (by decide)
    [.release 0, .release 1, .release 4096, .release 8192]
  have hregions : Shape.regionCount ⟨192, by decide⟩ = 3 := by decide
  have hlate : FreeSet.serveAll ⟨∅, 2 ^ 64 - 1⟩ 12288 3 [.release 0, .release 1, .release 4096, .release 8192] =
      ([.ok none, .ok none, .ok none, .ok none], ⟨{8192, 4096, 1, 0}, 2 ^ 64 - 1⟩) := by
    decide +kernel
  rw [hregions, hlate] at hset
  refine ⟨_, m₀, rfl, h1, hregions, ?_, ?_⟩
  · rw [← mem_freeSet, show FreeMap.freeSet _ = _ from congrArg FreeSet.members hset]
    decide
  · rw [(hm.serveAll_toSet _).1, hset, hshape, hcount, hregions]
    decide +kernel

end FreeMap

end BlockHeap
