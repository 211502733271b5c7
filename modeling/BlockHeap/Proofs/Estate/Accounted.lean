import BlockHeap.Proofs.Estate.Run

/-!
# All mappings are accounted for

In a good world without operations in progress each mapping has its use, and each use its mapping: a region for each
arena of a user, a region and a place for the data for each arena in a slot of a pool, and a mapping for each oversized
block in use (`World.Accounted`). Whatever users do, and whatever the operating system grants or refuses, such a world
is left (`run_accounted`): when the second mapping of a growth is refused the first one is given back, a source that is
dropped gives both mappings of each of its arenas back, and nothing is ever released that is not in place.
-/

namespace BlockHeap

/-- The mappings that a container has. -/
def Container.mappings (h : Heap) : Container → Multiset Mapping
  | .arena a _ => {a.region}
  | .source src => (src.poolNumbers : Multiset Nat).bind fun k => (h.pool k).mappings

/-- The oversized blocks in use. -/
def Estate.oversized (e : Estate) : Multiset Block := e.blocks.filter (·.pool = none)

/-- The mappings in place are those of the containers, of the oversized blocks in use and of others, each has its
length, and so many releases were of mappings not in place. -/
structure World.Accounted (foreign : Multiset Mapping) (stray : Nat) (s : World) : Prop where
  mapped : (s.1.os.space.live : Multiset Mapping) =
    s.2.present.bind (Container.mappings s.1) + s.2.oversized.map Block.mapping + foreign
  arenas : ∀ (a : Arena) (live : List Nat), .arena a live ∈ s.2.present → a.region.len = Arena.regionBytes
  slots : ∀ src, .source src ∈ s.2.present → ∀ k ∈ src.poolNumbers, ∀ r ∈ (s.1.pool k).published,
    r.value.region.len = Arena.regionBytes ∧ r.mapping.len = Size.roundUp Arena.headerBytes pageSize
  oversized : ∀ b ∈ s.2.oversized, b.mapping.len = Size.roundUp (Size.roundUp b.bytes 8 + 16) pageSize
  stray : s.1.os.space.stray = stray

variable {foreign : Multiset Mapping} {stray : Nat} {s₀ s : World}

/-- The length of the mapping of an oversized block. -/
theorem Memory.Houses.mapping_len {m : Memory} {b : Block} (h : m.Houses b) :
    b.mapping.len = Size.roundUp (Size.roundUp b.bytes 8 + 16) pageSize := by
  obtain ⟨offset, h1, h2, -⟩ := h
  rw [Block.mapping, h2, Oversized.handleOffset_eq h1]
  rfl

/-- The mappings that blocks have of their own are those of the oversized ones. -/
theorem Estate.bind_own (e : Estate) : e.blocks.bind Block.own = e.oversized.map Block.mapping := by
  have hown : e.oversized.bind Block.own = e.oversized.bind fun b => {b.mapping} :=
    Multiset.bind_congr fun b hb => Block.own_none (Multiset.mem_filter.mp hb).2
  rw [← Multiset.bind_singleton, ← hown, oversized]
  refine (Heap.bind_own_filter fun b hb => ?_).symm
  obtain ⟨k, hk⟩ := Option.ne_none_iff_exists'.mp hb
  exact Block.own_some hk

/-- **In a good world all mappings are accounted for** when no operation is in progress. -/
theorem World.Good.accounted {claimed : Nat → List Nat} (hs : Good foreign stray [] s₀ s claimed 0) :
    s.Accounted foreign stray where
  mapped := by
    have hpools : s.1.mappings = s.2.pools.bind fun k => (s.1.pool k).mappings :=
      Heap.mappings_eq_bind hs.distinct hs.known fun k hk => hs.arenas_eq_zero hk
    have hcontainers : s.2.present.bind (Container.mappings s.1) = s.1.mappings + s.2.regions := by
      rw [hpools, Estate.pools, Estate.regions, Multiset.bind_assoc, ← Multiset.bind_add]
      refine Multiset.bind_congr fun c _ => ?_
      cases c with
      | arena a live => rfl
      | source src => exact (add_zero _).symm
    rw [hs.heap.mapped, hcontainers, Estate.bind_own]
    abel
  arenas a live ha := by
    obtain ⟨-, g, hg⟩ := hs.containers _ ha
    exact hg.region_len
  slots src hsrc k hk r hr := by
    obtain ⟨-, g, hg⟩ := (hs.heap.pools k).arenas r hr
    exact ⟨hg.region_len, hs.housed k _ (Multiset.mem_map_of_mem _ hr)⟩
  oversized b hb := by
    obtain ⟨hb, hnone⟩ := Multiset.mem_filter.mp hb
    exact (hs.heap.housed b hb hnone).mapping_len
  stray := hs.stray

/-- Nothing was done yet. -/
theorem World.Good.start {os : Os} (hos : os.Sound) :
    Good os.space.live os.space.stray [] (Heap.onOs os, .empty) (Heap.onOs os, .empty) (fun _ => []) 0 where
  heap := by
    have hsound := (Heap.Fresh.onOs hos).sound
    rwa [← zero_add ((Heap.onOs os).os.space.live : Multiset Mapping), ← zero_add (0 + _)] at hsound
  stray := rfl
  housed k m hm := by
    rw [Pool.headers, Heap.pool_of_le (Nat.zero_le k), Heap.vacant_sound.2] at hm
    cases hm
  containers c hc := by cases hc
  distinct := Multiset.nodup_zero
  known k hk := by cases hk
  idle k _ := by
    rw [Heap.pool_of_le (Nat.zero_le k)]
    rfl
  uses u hu := by cases hu
  stays o ho := by cases ho
  alike k _ := .refl _
  unclaimed _ _ := rfl

/-- **All mappings are accounted for**, whatever was done. -/
theorem run_accounted {os : Os} (hos : os.Sound) (deeds : List Deed) :
    (Deed.runAll [] deeds (Heap.onOs os, .empty)).Accounted os.space.live os.space.stray :=
  (Deed.runAll_good deeds (.start hos)).accounted

/-- While a pool grows, others drop an arena, try to drop the pool, map an oversized block and make the pool grow once
more. When the growth is refused the mapping for its arena's data, its slot cannot be given back. -/
def upheaval : List Deed :=
  [.makeArena .shared 4096 [], .makePool .shared [.blockSize 4194304, .maxArenas 3], .makeRegistry .threadLocal,
    .allocate 1 1 [.mk [.drop 0, .drop 1, .allocate 2 5000000 [] [], .allocate 1 1 [] []] false,
      .mk [.allocate 2 100 [] []] true] []]

/-- After the sources were dropped as well, the oversized block alone is left. -/
theorem run_accounted_upheaval : Os.standard.Sound ∧
    (Deed.runAll [] (upheaval ++ [.drop 2, .drop 1]) (Heap.onOs .standard, .empty)).Accounted 0 0 ∧
    (Deed.runAll [] upheaval (Heap.onOs .standard, .empty)).1.os.space.live.map (·.len) =
      [4096, 67108864, 4096, 67108864, 5001216] ∧
    (Deed.runAll [] (upheaval ++ [.drop 2, .drop 1]) (Heap.onOs .standard, .empty)).1.os.space.live.map (·.len) =
      [5001216] :=
  ⟨Os.standard_sound, run_accounted Os.standard_sound _, by decide +kernel, by decide +kernel⟩

end BlockHeap
