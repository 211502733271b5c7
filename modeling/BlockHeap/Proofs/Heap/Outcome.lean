import BlockHeap.Proofs.Heap.Calls
import BlockHeap.Proofs.Pool.Honest

/-!
# The outcome of an allocation

`Call.Outcome` says what an allocation from a pool comes to when nothing is nested in it: which of its five endings it
has, what the answer is, and what the heap is like afterwards. Every allocation has its outcome, in all states of the
pool that honest steps reach, also while others have growths in progress (`Call.allocate_outcome`).

The endings are computed stage by stage: asking for mappings (`map_asking`), making the arena (`houseArena_asking`),
filling the slot, and the round as a whole.
-/

namespace BlockHeap

/-! ## The operating system -/

namespace Os

theorem live_of_map_error {os os' : Os} {size : Nat} {refuse : Bool} {e : OsError}
    (h : os.map size refuse = (.error e, os')) : os'.space.live = os.space.live := by
  unfold Os.map at h
  split at h
  · cases h
    rfl
  · dsimp only at h
    split at h
    · cases h
      rfl
    · cases h

theorem live_of_map_ok {os os' : Os} {size : Nat} {refuse : Bool} {m : Mapping}
    (h : os.map size refuse = (.ok m, os')) : os'.space.live = m :: os.space.live := by
  unfold Os.map at h
  split at h
  · cases h
  · dsimp only at h
    split at h
    · cases h
    · cases h
      rfl

/-- Giving back the mapping made last. -/
theorem live_unmap_of_cons {os : Os} {m : Mapping} {live : List Mapping} (h : os.space.live = m :: live) :
    (os.unmap m).space.live = live := by
  have hmem : m ∈ os.space.live := by
    rw [h]
    exact List.mem_cons_self
  rw [Os.unmap, if_pos hmem]
  dsimp only
  rw [h, List.erase_cons_head]

end Os

/-! ## Endings -/

namespace Call

variable {ε : Type}

/-- A call in which nothing is nested. Its requests for mappings are refused as a list says; those after the end of the
list are up to the operating system. -/
def asking (h : Heap) (rest : ε) (refusals : List Bool) : Call ε :=
  ⟨h, rest, refusals.map fun refuse => ⟨id, refuse⟩, [], #[]⟩

/-- What an allocation from pool `k` comes to when nothing is nested in it: its answer, and the heap afterwards. The
operating system is asked for the region of an arena and then for the mapping of its data, and may refuse either. -/
inductive Outcome (h : Heap) (k : Nat) (refuseRegion refuseHeader : Bool) : Except Failure Nat → Heap → Prop where
  /-- Some arena has room: the current one serves, or else the first that has room. -/
  | found {i x : Nat} {q : Pool} (hroom : (h.pool k).HasRoom i)
    (hfirst : i = (h.pool k).current ∨ (¬(h.pool k).HasRoom (h.pool k).current ∧ ∀ j < i, ¬(h.pool k).HasRoom j))
    (htook : (h.pool k).TookFrom i x q) :
    Outcome h k refuseRegion refuseHeader (.ok x) (h.setPool k q)
  /-- All arenas are full, and there may be no more. -/
  | exhausted (hroom : ∀ i, ¬(h.pool k).HasRoom i) (hlimit : (h.pool k).count = (h.pool k).maxArenas) :
    Outcome h k refuseRegion refuseHeader
      (.error (.error (.poolExhausted (h.pool k).blockSize (h.pool k).count))) (h.setPool k (h.pool k).searched)
  /-- The region of a further arena is not mapped. -/
  | regionRefused {e : OsError} {os : Os} (hroom : ∀ i, ¬(h.pool k).HasRoom i)
    (hlimit : (h.pool k).count < (h.pool k).maxArenas)
    (hregion : h.os.map Arena.regionBytes refuseRegion = (.error e, os)) (hlive : os.space.live = h.os.space.live) :
    Outcome h k refuseRegion refuseHeader (.error (.error (.map Arena.regionBytes e)))
      ({ h with os }.setPool k (h.pool k).searched)
  /-- The region is mapped, but there is no mapping for the arena's data: the region is given back. -/
  | headerRefused {region : Mapping} {e : OsError} {os os' : Os} (hroom : ∀ i, ¬(h.pool k).HasRoom i)
    (hlimit : (h.pool k).count < (h.pool k).maxArenas)
    (hregion : h.os.map Arena.regionBytes refuseRegion = (.ok region, os))
    (hheader : os.map Arena.headerBytes refuseHeader = (.error e, os'))
    (hlive : (os'.unmap region).space.live = h.os.space.live) :
    Outcome h k refuseRegion refuseHeader (.error (.error (.map Arena.headerBytes e)))
      (({ h with os := os' }.unmap region).setPool k (h.pool k).searched)
  /-- The new arena is put into the next slot, is made the current one, and gives its first block. -/
  | grown {region header : Mapping} {os os' : Os} {g : Arena.Geometry} {a : Arena}
    (hroom : ∀ i, ¬(h.pool k).HasRoom i) (hlimit : (h.pool k).count < (h.pool k).maxArenas)
    (hregion : h.os.map Arena.regionBytes refuseRegion = (.ok region, os))
    (hheader : os.map Arena.headerBytes refuseHeader = (.ok header, os'))
    (hlive : os'.space.live = header :: region :: h.os.space.live)
    (hg : Arena.Geometry.ofBlockSize (h.pool k).blockSize = .ok g)
    (hnew : Arena.create (h.pool k).policy g region = .ok a) :
    Outcome h k refuseRegion refuseHeader (.ok (a.address 0))
      ({ h with os := os' }.setPool k
        { (h.pool k).searched.putSlot (h.pool k).count (some ⟨a.advanced, header⟩) with
          count := (h.pool k).count + 1, current := (h.pool k).count })

/-! ## Stages -/

variable {c c' : Call ε} {refusals : List Bool} {g : Arena.Geometry}

/-- Asking for a mapping when nothing is nested in the call. -/
theorem map_asking (hc : c.decisions = refusals.map fun refuse => ⟨id, refuse⟩) {size : Nat}
    {x : Except OsError Mapping} {os : Os} (hos : c.heap.os.map size (refusals.headD false) = (x, os)) :
    c.map size = (x.mapError (.map size), ⟨{ c.heap with os }, c.rest,
      refusals.tail.map fun refuse => ⟨id, refuse⟩, c.growths, c.events ++ Call.refusals size x⟩) := by
  have hquiet : (c.decisions.headD .grant).meanwhile (c.heap, c.rest) = (c.heap, c.rest) ∧
      (c.decisions.headD .grant).refuse = refusals.headD false := by
    rw [hc]
    cases refusals <;> exact ⟨rfl, rfl⟩
  have hos' : (c.heap, c.rest).1.os.map size (c.decisions.headD .grant).refuse = (x, os) := by
    rw [hquiet.2]
    exact hos
  rw [map_of_answer hquiet.1 hos', hc, List.map_tail]

/-- Making an arena when its region is not mapped. -/
theorem houseArena_regionRefused (hc : c.decisions = refusals.map fun refuse => ⟨id, refuse⟩) {policy : Policy}
    {size : Nat} (hg : Arena.Geometry.ofBlockSize size = .ok g) {e : OsError} {os : Os}
    (hregion : c.heap.os.map Arena.regionBytes (refusals.headD false) = (.error e, os)) :
    ∃ c', c.houseArena policy size = (.error (.error (.map Arena.regionBytes e)), c') ∧
      c'.heap = { c.heap with os } := by
  rw [houseArena, mapArena, hg]
  simp only [map_asking hc hregion, Except.mapError]
  exact ⟨_, rfl, rfl⟩

variable {policy : Policy} {size : Nat} {region : Mapping} {os os' : Os} {a : Arena}

/-- Making an arena when there is no mapping for its data. -/
theorem houseArena_headerRefused (hc : c.decisions = refusals.map fun refuse => ⟨id, refuse⟩)
    (hg : Arena.Geometry.ofBlockSize size = .ok g) (hnew : Arena.create policy g region = .ok a)
    (hregion : c.heap.os.map Arena.regionBytes (refusals.headD false) = (.ok region, os)) {e : OsError}
    (hheader : os.map Arena.headerBytes (refusals.tail.headD false) = (.error e, os')) :
    ∃ c', c.houseArena policy size = (.error (.error (.map Arena.headerBytes e)), c') ∧
      c'.heap = { c.heap with os := os' }.unmap a.region := by
  rw [houseArena, mapArena, hg]
  simp only [map_asking hc hregion, Except.mapError, hnew, house, log]
  rw [@map_asking _ _ refusals.tail rfl _ _ _ hheader]
  exact ⟨_, rfl, rfl⟩

/-- Making an arena. -/
theorem houseArena_granted (hc : c.decisions = refusals.map fun refuse => ⟨id, refuse⟩)
    (hg : Arena.Geometry.ofBlockSize size = .ok g) (hnew : Arena.create policy g region = .ok a)
    (hregion : c.heap.os.map Arena.regionBytes (refusals.headD false) = (.ok region, os)) {header : Mapping}
    (hheader : os.map Arena.headerBytes (refusals.tail.headD false) = (.ok header, os')) :
    ∃ c', c.houseArena policy size = (.ok ⟨a, header⟩, c') ∧ c'.heap = { c.heap with os := os' } ∧
      c'.growths = c.growths := by
  rw [houseArena, mapArena, hg]
  simp only [map_asking hc hregion, Except.mapError, hnew, house, log]
  rw [@map_asking _ _ refusals.tail rfl _ _ _ hheader]
  exact ⟨_, rfl, rfl, rfl⟩

/-- An allocation ends with its first round. -/
theorem allocate_of_round {k : Nat} {x : Except Failure Nat} (h : c.round k = (some x, c')) :
    c.allocate k = (x, c') := by
  rw [allocate, roundLimit, rounds, h]

section Growth

variable {h : Heap} {k : Nat} {claimed : List Nat}

/-- The heap after the next slot was claimed, when no arena had room. -/
def claimedHeap (h : Heap) (k : Nat) : Heap :=
  h.setPool k { (h.pool k).searched with count := (h.pool k).count + 1 }

/-- The call after the next slot was claimed. -/
def claimedCall (h : Heap) (k : Nat) (rest : ε) (refusals : List Bool) : Call ε :=
  { asking h rest refusals with heap := claimedHeap h k }

/-- The call after the search for a block found none. -/
def searchedCall (h : Heap) (k : Nat) (rest : ε) (refusals : List Bool) : Call ε :=
  { asking h rest refusals with heap := h.setPool k (h.pool k).searched }

variable (hk : k < h.pools.size)

include hk

theorem pool_searchedCall (rest : ε) (refusals : List Bool) :
    (searchedCall h k rest refusals).heap.pool k = (h.pool k).searched := Heap.pool_setPool_self hk _

theorem pool_claimedCall (rest : ε) (refusals : List Bool) :
    (claimedCall h k rest refusals).heap.pool k = { (h.pool k).searched with count := (h.pool k).count + 1 } :=
  Heap.pool_setPool_self hk _

theorem searchedCall_claimSlot (rest : ε) (refusals : List Bool) :
    (searchedCall h k rest refusals).onPool k (·.claimSlot (h.pool k).count) =
      (true, claimedCall h k rest refusals) := by
  have hpool := pool_searchedCall hk rest refusals
  rw [onPool_claimSlot (n := (h.pool k).count) (by rw [hpool]; rfl), hpool]
  simp only [searchedCall, claimedCall, claimedHeap, Heap.setPool_setPool]

variable (hregular : (h.pool k).Regular claimed) (hroom : ∀ i, ¬(h.pool k).HasRoom i)

include hregular hroom

omit hk in
/-- Looking for a block when no arena has room. -/
theorem asking_takeExisting (rest : ε) (refusals : List Bool) :
    (asking h rest refusals).onPool k (·.takeExisting ((asking h rest refusals).heap.pool k).count) =
      (.ok none, searchedCall h k rest refusals) := by
  rw [onPool_eq]
  simp only [asking, searchedCall, hregular.takeExisting_of_full hroom]

/-- An allocation that finds all arenas full and may not make another one. -/
theorem allocate_exhausted (hlimit : (h.pool k).count = (h.pool k).maxArenas) (rest : ε) (refusals : List Bool) :
    ∃ c', (asking h rest refusals).allocate k =
      (.error (.error (.poolExhausted (h.pool k).blockSize (h.pool k).count)), c') ∧
        c'.heap = h.setPool k (h.pool k).searched := by
  have hpool := pool_searchedCall hk rest refusals
  have hround := round_of_full (asking_takeExisting hregular hroom rest refusals)
    (by rw [hpool]; exact Nat.le_of_eq hlimit.symm)
  rw [hpool] at hround
  exact ⟨_, allocate_of_round hround, rfl⟩

variable (hlimit : (h.pool k).count < (h.pool k).maxArenas)

include hlimit

/-- An allocation in which the slot that it claims cannot be filled. -/
theorem allocate_failed {rest : ε} {e : AllocError}
    (hhouse : (claimedCall h k rest refusals).houseArena (h.pool k).policy (h.pool k).blockSize =
      (.error (.error e), c)) (hpool : c.heap.pools = (claimedHeap h k).pools) :
    ∃ c', (asking h rest refusals).allocate k = (.error (.error e), c') ∧
      c'.heap = { h with os := c.heap.os, memory := c.heap.memory }.setPool k (h.pool k).searched := by
  have hclaimed := pool_claimedCall hk rest refusals
  have hc : c.heap.pool k = { (h.pool k).searched with count := (h.pool k).count + 1 } := by
    rw [← hclaimed, Heap.pool, hpool]
    rfl
  have hback : c.onPool k (·.giveBack (h.pool k).count) =
      (true, { c with heap := c.heap.setPool k (h.pool k).searched }) := by
    rw [onPool_eq, hc, Pool.giveBack, if_pos rfl]
    rfl
  have hhouse' : (claimedCall h k rest refusals).houseArena ((claimedCall h k rest refusals).heap.pool k).policy
      ((claimedCall h k rest refusals).heap.pool k).blockSize = (.error (.error e), c) := by
    rw [hclaimed]
    exact hhouse
  have hfill := @fillSlot_of_error _ _ _ _ (h.pool k).count _ hhouse'
  have hround := round_of_failed (asking_takeExisting hregular hroom rest refusals)
    (by rw [pool_searchedCall hk]; exact Nat.not_le_of_lt hlimit) (searchedCall_claimSlot hk rest refusals) hfill
  refine ⟨_, allocate_of_round hround, ?_⟩
  rw [hback]
  simp only [log, Heap.setPool, hpool, claimedHeap, Array.setIfInBounds_setIfInBounds]

/-- An allocation in which the slot that it claims is filled. -/
theorem allocate_grown {rest : ε} (hg : Arena.Geometry.ofBlockSize (h.pool k).blockSize = .ok g)
    (hnew : Arena.create (h.pool k).policy g region = .ok a) {header : Mapping}
    (hhouse : (claimedCall h k rest refusals).houseArena (h.pool k).policy (h.pool k).blockSize =
      (.ok ⟨a, header⟩, c)) (hpool : c.heap.pools = (claimedHeap h k).pools) (hgrowths : c.growths = []) :
    ∃ c', (asking h rest refusals).allocate k = (.ok (a.address 0), c') ∧
      c'.heap = { h with os := c.heap.os, memory := c.heap.memory }.setPool k
        { (h.pool k).searched.putSlot (h.pool k).count (some ⟨a.advanced, header⟩) with
          count := (h.pool k).count + 1, current := (h.pool k).count } := by
  have hclaimed := pool_claimedCall hk rest refusals
  have hcap : (h.pool k).count < Pool.capacity := Nat.lt_of_lt_of_le hlimit (h.pool k).maxArenas_le
  have hc : c.heap.pool k = { (h.pool k).searched with count := (h.pool k).count + 1 } := by
    rw [← hclaimed, Heap.pool, hpool]
    rfl
  have hkc : k < c.heap.pools.size := by
    rw [hpool, claimedHeap, Heap.size_setPool]
    exact hk
  have hhouse' : (claimedCall h k rest refusals).houseArena ((claimedCall h k rest refusals).heap.pool k).policy
      ((claimedCall h k rest refusals).heap.pool k).blockSize = (.ok ⟨a, header⟩, c) := by
    rw [hclaimed]
    exact hhouse
  have hfill := @fillSlot_of_ok _ _ _ _ (h.pool k).count _ hhouse'
  -- nobody works at the growth, so the new arena is there with all its blocks
  let p : Pool := (c.heap.pool k).publish (h.pool k).count ⟨a, header⟩
  have hslot : p.slot? (h.pool k).count = some ⟨a, header⟩ := Pool.slot?_putSlot_self hcap _
  have htake : ∀ d : Call ε, d.heap = c.heap.setPool k p → d.onPool k (·.takeFrom (h.pool k).count) =
      (.ok (some (a.address 0)), { d with
        heap := c.heap.setPool k (p.putSlot (h.pool k).count (some ⟨a.advanced, header⟩)) }) := by
    intro d hd
    rw [onPool_eq, hd, Heap.pool_setPool_self hkc, Pool.takeFrom_some hslot,
      Arena.allocate_of_create (Arena.Geometry.ofBlockSize_fits hg).2 hnew, Heap.setPool_setPool]
  have hquiet : ∀ e, ((c.modifyPool k (·.publish (h.pool k).count ⟨a, header⟩)).log e).announceGrowth.heap =
      c.heap.setPool k p := by
    intro e
    rw [modifyPool, onPool_eq]
    simp only [announceGrowth, log, interlude, hgrowths, List.headD_nil, id]
    rfl
  have hround := round_of_grown (asking_takeExisting hregular hroom rest refusals)
    (by rw [pool_searchedCall hk]; exact Nat.not_le_of_lt hlimit) (searchedCall_claimSlot hk rest refusals) hfill
    (htake _ (hquiet _))
  refine ⟨_, allocate_of_round hround, ?_⟩
  simp only [p, hc, Heap.setPool, hpool, claimedHeap, Array.setIfInBounds_setIfInBounds, Pool.publish, Pool.putSlot,
    Vector.setIfInBounds_setIfInBounds]

end Growth

/-! ## The outcome -/

/-- An allocation from a regular pool has its outcome. -/
theorem outcome_of_regular {h : Heap} {k : Nat} {claimed : List Nat} (hk : k < h.pools.size)
    (hregular : (h.pool k).Regular claimed) (rest : ε) (refusals : List Bool) :
    Outcome h k (refusals.headD false) (refusals.tail.headD false) ((asking h rest refusals).allocate k).1
      ((asking h rest refusals).allocate k).2.heap := by
  by_cases hroom : ∃ i, (h.pool k).HasRoom i
  · obtain ⟨i, hi, hfirst⟩ := Pool.exists_first hroom
    obtain ⟨x, q, hq, htook⟩ := hregular.takeExisting_of_room hi hfirst
    have hround : (asking h rest refusals).round k =
        (some (.ok x), { asking h rest refusals with heap := h.setPool k q }) := by
      refine round_of_found ?_
      rw [onPool_eq]
      simp only [asking, hq]
    rw [allocate_of_round hround]
    exact .found hi hfirst htook
  rw [not_exists] at hroom
  rcases Nat.lt_or_eq_of_le hregular.slots.count_le with hlimit | hlimit
  · obtain ⟨g, hg⟩ := hregular.geometry (Nat.zero_lt_of_lt hlimit)
    have hclaimed : (claimedCall h k rest refusals).decisions = refusals.map fun refuse => ⟨id, refuse⟩ := rfl
    cases hregion : h.os.map Arena.regionBytes (refusals.headD false) with
    | mk answer os =>
      cases answer with
      | error e =>
        obtain ⟨c, hhouse, hheap⟩ := houseArena_regionRefused hclaimed hg hregion
        obtain ⟨c', halloc, hheap'⟩ := allocate_failed hk hregular hroom hlimit hhouse (by rw [hheap]; rfl)
        rw [halloc, hheap', hheap]
        exact .regionRefused hroom hlimit hregion (Os.live_of_map_error hregion)
      | ok region =>
        obtain ⟨m, hnew, -⟩ := Arena.create_eq (h.pool k).policy region (Arena.Geometry.ofBlockSize_fits hg).2
        have hlive := Os.live_of_map_ok hregion
        cases hheader : os.map Arena.headerBytes (refusals.tail.headD false) with
        | mk answer os' =>
          cases answer with
          | error e =>
            obtain ⟨c, hhouse, hheap⟩ := houseArena_headerRefused hclaimed hg hnew hregion hheader
            obtain ⟨c', halloc, hheap'⟩ := allocate_failed hk hregular hroom hlimit hhouse (by rw [hheap]; rfl)
            rw [halloc, hheap', hheap]
            exact .headerRefused hroom hlimit hregion hheader
              (Os.live_unmap_of_cons ((Os.live_of_map_error hheader).trans hlive))
          | ok header =>
            obtain ⟨c, hhouse, hheap, hgrowths⟩ := houseArena_granted hclaimed hg hnew hregion hheader
            obtain ⟨c', halloc, hheap'⟩ :=
              allocate_grown hk hregular hroom hlimit hg hnew hhouse (by rw [hheap]; rfl) hgrowths
            rw [halloc, hheap', hheap]
            exact .grown hroom hlimit hregion hheader ((Os.live_of_map_ok hheader).trans (by rw [hlive])) hg hnew
  · obtain ⟨c', halloc, hheap⟩ := allocate_exhausted hk hregular hroom hlimit rest refusals
    rw [halloc, hheap]
    exact .exhausted hroom hlimit

/-- **The outcome of an allocation**, from every state of the pool that honest steps reach, with any number of growths
of others in progress. -/
theorem allocate_outcome {policy : Policy} {size m : Nat} {p : Pool} {g : Arena.Geometry}
    (hg : Arena.Geometry.ofBlockSize size = .ok g) (hp : Pool.create policy size m = .ok p) {s : Pool.Growths}
    (hs : Pool.Growths.Comes ⟨p, [], []⟩ s) {h : Heap} {k : Nat} (hk : h.pool k = s.pool) (rest : ε)
    (refusals : List Bool) :
    Outcome h k (refusals.headD false) (refusals.tail.headD false) ((asking h rest refusals).allocate k).1
      ((asking h rest refusals).allocate k).2.heap := by
  obtain ⟨hregular, honward⟩ := hs.onward (Pool.Growths.regular_of_create hg hp)
  rw [← hk] at hregular
  refine outcome_of_regular (Heap.lt_size ?_) hregular rest refusals
  obtain ⟨-, -, hmax, -, -, hm⟩ := Pool.create_eq hp
  have hsame : (h.pool k).maxArenas = m := by
    rw [hk, honward.maxArenas]
    exact hmax
  omega

/-- Two growths are in progress, and hold slots 0 and 1. A third one gets its region but no mapping for its data, gives
slot 2 back and leaves nothing mapped. -/
theorem allocate_outcome_two_growths : ∃ p s h, Pool.create .shared SizeClass.greatest 3 = .ok p ∧
    Pool.Growths.Comes ⟨p, [], []⟩ s ∧ s.claimed = [1, 0] ∧ Heap.pool h 0 = s.pool ∧
    ((asking h () [false, true]).allocate 0).1 = .error (.error (.map 640 .outOfMemory)) ∧
    ((asking h () [false, true]).allocate 0).2.heap.os.space.live = [] ∧
    (((asking h () [false, true]).allocate 0).2.heap.pool 0).count = 2 ∧
    Outcome h 0 false true ((asking h () [false, true]).allocate 0).1
      ((asking h () [false, true]).allocate 0).2.heap := by
  obtain ⟨g, hg⟩ := Arena.Geometry.exists_ofBlockSize (show Size.isPowerOfTwo SizeClass.greatest = true by decide)
    (by decide)
  let p : Pool := ⟨.shared, SizeClass.greatest, 3, by decide, Vector.replicate _ none, 0, 0⟩
  let s : Pool.Growths := (Pool.Growths.start ⟨p, [], []⟩ 0).start 1
  let h : Heap := ⟨.standard, .empty, #[s.pool]⟩
  have h0 : Pool.Growths.Honest ⟨p, [], []⟩ (Pool.Growths.start ⟨p, [], []⟩ 0) :=
    .of_step (.start _ (by decide) rfl) fun _ hnone => hnone
  have h1 : Pool.Growths.Honest (Pool.Growths.start ⟨p, [], []⟩ 0) s :=
    .of_step (.start _ (by decide) rfl) fun _ hnone => hnone
  have hs : Pool.Growths.Comes ⟨p, [], []⟩ s := .tail (.single h0) h1
  have hp : Pool.create .shared SizeClass.greatest 3 = .ok p := rfl
  exact ⟨p, s, h, hp, hs, rfl, rfl, by decide +kernel, by decide +kernel, by decide +kernel,
    allocate_outcome hg hp hs rfl () [false, true]⟩

end Call

end BlockHeap
