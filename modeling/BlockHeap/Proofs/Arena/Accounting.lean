import BlockHeap.Proofs.Arena.Held

/-!
# The account of an arena

A `Usage` is an arena together with what its user knows: the blocks in use, and the history of what was taken and given
back. `serve` carries out one request, `serveAll` a list of them.

Whatever is requested of a fresh arena, every request is served, and arena and history agree (`serveAll_accounted`):
each block is handed out once in order of address before any block is handed out again, the blocks handed out later are
spare ones, the blocks in use are those below the cursor that are not free, and the arena says that it is full exactly
when all blocks are in use. The invariant of single requests is `Kept`.
-/

namespace BlockHeap.Arena

/-- What can be requested of an arena. -/
inductive Request where
  /-- Asks for a block. -/
  | allocate
  /-- Gives back number `i` of the blocks in use. -/
  | deallocate (i : Nat)

/-- What happened to the block at an address. -/
inductive Deed where
  | taken (x : Nat)
  | returned (x : Nat)

/-- The addresses handed out, in order; the latest deed of a history comes first. -/
def handed : List Deed → List Nat
  | [] => []
  | .taken x :: past => handed past ++ [x]
  | .returned _ :: past => handed past

/-- The block at `x` was given back, and was not handed out since. -/
def Spare (x : Nat) : List Deed → Prop
  | [] => False
  | .taken y :: past => x ≠ y ∧ Spare x past
  | .returned y :: past => x = y ∨ Spare x past

/-- An arena, the addresses of its blocks in use, and its history. -/
structure Usage where
  arena : Arena
  live : List Nat
  past : List Deed

namespace Usage

/-- An arena that was not used yet. -/
def fresh (a : Arena) : Usage := ⟨a, [], []⟩

/-- Serves a request. There may be no block to hand out, or none of the given number. -/
def serve (u : Usage) : Request → Except Fault Usage
  | .allocate =>
    match u.arena.allocate with
    | (.ok (some x), a) => .ok ⟨a, x :: u.live, .taken x :: u.past⟩
    | (.ok none, a) => .ok { u with arena := a }
    | (.error f, _) => .error f
  | .deallocate i =>
    match u.live[i]? with
    | none => .ok u
    | some x =>
      match u.arena.deallocate x with
      | (.ok (), a) => .ok ⟨a, u.live.eraseIdx i, .returned x :: u.past⟩
      | (.error f, _) => .error f

/-- Serves requests in order, up to the first fault. -/
def serveAll : List Request → Usage → Except Fault Usage
  | [], u => .ok u
  | q :: qs, u => do serveAll qs (← u.serve q)

/-- Arena and history agree; `start` is the address of the first block. -/
structure Accounted (u : Usage) (g : Geometry) (start : Nat) : Prop where
  bump_eq : u.arena.bump = min (handed u.past).length g.blockCount * g.blockSize
  bump_le : u.arena.bump ≤ g.usable
  /-- The first blocks handed out are all blocks, in order of address. -/
  in_order : ∀ i < g.blockCount, ∀ x, (handed u.past)[i]? = some x → x = start + i * g.blockSize
  /-- Before that, nobody searches for blocks given back. -/
  unsearched : (handed u.past).length < g.blockCount → u.arena.free.searches = 0
  /-- Each block handed out later was a spare one at that time. -/
  recycled : ∀ x older, .taken x :: older <:+ u.past → g.blockCount ≤ (handed older).length → Spare x older
  live_nodup : u.live.Nodup
  mem_live : ∀ x, x ∈ u.live ↔
    ∃ i < u.arena.bump / g.blockSize, u.arena.free.isFree i = false ∧ x = start + i * g.blockSize
  isFull_iff : u.arena.isFull = true ↔ ∀ i < g.blockCount, start + i * g.blockSize ∈ u.live
  none_iff : u.arena.allocate.1 = .ok none ↔ ∀ i < g.blockCount, start + i * g.blockSize ∈ u.live
  /-- An allocation that finds no block changes nothing but the number of searches. -/
  none_changes : u.arena.allocate.1 = .ok none →
    u.arena.allocate.2 = { u.arena with free := { u.arena.free with searches := u.arena.free.searches + 1 } }

/-- What single requests preserve. -/
structure Kept (u : Usage) (g : Geometry) (start : Nat) : Prop where
  sound : u.arena.Sound g
  base_eq : u.arena.base = start
  live_eq : (u.live : Multiset Nat) = u.arena.held
  cursor_eq : u.arena.cursor = min (handed u.past).length g.blockCount
  in_order : ∀ i < g.blockCount, ∀ x, (handed u.past)[i]? = some x → x = u.arena.address i
  unsearched : (handed u.past).length < g.blockCount → u.arena.free.searches = 0
  recycled : ∀ x older, .taken x :: older <:+ u.past → g.blockCount ≤ (handed older).length → Spare x older
  /-- The free blocks are spare ones. -/
  spare : ∀ i ∈ u.arena.free.freeSet, Spare (u.arena.address i) u.past

namespace Kept

variable {u : Usage} {g : Geometry} {start : Nat}

/-! ## Single requests -/

/-- The cursor has gone on to the first block that was not handed out. -/
theorem advance (h : u.Kept g start) (hc : u.arena.cursor < u.arena.blockCount) :
    Kept ⟨u.arena.advanced, u.arena.address u.arena.cursor :: u.live, .taken (u.arena.address u.arena.cursor) :: u.past⟩
      g start := by
  obtain ⟨hsound, htaken⟩ := h.sound.advance hc
  have hnot : u.arena.cursor ∉ u.arena.taken := fun hmem => Nat.lt_irrefl _ (Sound.mem_taken.mp hmem).1
  have hcursor := h.cursor_eq
  rw [h.sound.blockCount] at hc
  have hlen : (handed u.past).length = u.arena.cursor := by omega
  constructor
  case sound => exact hsound
  case base_eq => exact h.base_eq
  case live_eq =>
    rw [(Sound.alike_advanced _).held_insert hnot htaken, ← h.live_eq]
    rfl
  case cursor_eq =>
    rw [h.sound.cursor_advanced, handed, List.length_append, List.length_singleton]
    omega
  case in_order =>
    intro i hi x hx
    rw [handed, List.getElem?_append] at hx
    split at hx
    · exact h.in_order i hi x hx
    · rw [List.getElem?_singleton] at hx
      split at hx
      · obtain rfl : u.arena.cursor = i := by omega
        exact (Option.some.inj hx).symm
      · cases hx
  case unsearched =>
    rw [handed, List.length_append]
    intro hlt
    exact h.unsearched (by omega)
  case recycled =>
    intro x older hsuffix hle
    rcases List.suffix_cons_iff.mp hsuffix with heq | hsuffix
    · obtain ⟨-, rfl⟩ := List.cons.inj heq
      omega
    · exact h.recycled x older hsuffix hle
  case spare =>
    intro i hi
    refine ⟨?_, h.spare i hi⟩
    intro heq
    exact Nat.ne_of_lt (h.sound.lt_cursor i hi) (h.sound.address_injective heq)

/-- All blocks were handed out when the cursor is at the end. -/
theorem blockCount_le_handed (h : u.Kept g start) (hc : u.arena.cursor = u.arena.blockCount) :
    g.blockCount ≤ (handed u.past).length := by
  have hcursor := h.cursor_eq
  rw [hc, h.sound.blockCount] at hcursor
  omega

/-- A block that was given back is handed out again. -/
theorem recycle (h : u.Kept g start) (hc : u.arena.cursor = u.arena.blockCount) {i : Nat}
    (hi : i ∈ u.arena.free.freeSet) {m : FreeMap} (hset : m.freeSet = u.arena.free.freeSet.erase i)
    (hsound : ({ u.arena with free := m } : Arena).Sound g) (halike : u.arena.Alike { u.arena with free := m }) :
    Kept ⟨{ u.arena with free := m }, u.arena.address i :: u.live, .taken (u.arena.address i) :: u.past⟩ g start := by
  have hnot : i ∉ u.arena.taken := fun hmem => (Sound.mem_taken.mp hmem).2 hi
  have hall := h.blockCount_le_handed hc
  have hlen : (handed (.taken (u.arena.address i) :: u.past)).length = (handed u.past).length + 1 := by
    simp [handed]
  constructor
  case sound => exact hsound
  case base_eq => exact h.base_eq
  case live_eq =>
    rw [halike.held_insert hnot (h.sound.taken_erase hi hset), ← h.live_eq]
    rfl
  case cursor_eq =>
    have hcursor := h.cursor_eq
    rw [hlen]
    change u.arena.cursor = _
    omega
  case in_order =>
    intro j hj x hx
    rw [handed, List.getElem?_append_left (by omega)] at hx
    exact h.in_order j hj x hx
  case unsearched =>
    rw [hlen]
    intro hlt
    omega
  case recycled =>
    intro x older hsuffix hle
    rcases List.suffix_cons_iff.mp hsuffix with heq | hsuffix
    · obtain ⟨hx, rfl⟩ := List.cons.inj heq
      obtain rfl := Deed.taken.inj hx
      exact h.spare i hi
    · exact h.recycled x older hsuffix hle
  case spare =>
    intro j hj
    rw [hset, Finset.mem_erase] at hj
    exact ⟨fun heq => hj.1 (h.sound.address_injective heq), h.spare j hj.2⟩

/-- A search that finds nothing is counted. -/
theorem search (h : u.Kept g start) (hc : u.arena.cursor = u.arena.blockCount) :
    Kept { u with arena := { u.arena with free := u.arena.free.searched } } g start := by
  obtain ⟨hsound, halike⟩ := h.sound.withFree h.sound.exact.searched ⟨rfl, rfl⟩ h.sound.lt_cursor
  have hall := h.blockCount_le_handed hc
  constructor
  case sound => exact hsound
  case base_eq => exact h.base_eq
  case live_eq => exact h.live_eq.trans (halike.held_eq rfl).symm
  case cursor_eq => exact h.cursor_eq
  case in_order => exact h.in_order
  case unsearched => exact fun hlt => absurd hlt (Nat.not_lt_of_le hall)
  case recycled => exact h.recycled
  case spare => exact h.spare

/-- A block in use is given back. -/
theorem giveBack (h : u.Kept g start) {k i : Nat} (hk : u.live[k]? = some (u.arena.address i))
    (hi : i ∈ u.arena.taken) {m : FreeMap} (hset : m.freeSet = insert i u.arena.free.freeSet)
    (hsearches : m.searches = u.arena.free.searches) (hsound : ({ u.arena with free := m } : Arena).Sound g)
    (halike : u.arena.Alike { u.arena with free := m }) :
    Kept ⟨{ u.arena with free := m }, u.live.eraseIdx k, .returned (u.arena.address i) :: u.past⟩ g start := by
  constructor
  case sound => exact hsound
  case base_eq => exact h.base_eq
  case live_eq =>
    obtain ⟨hlt, hx⟩ := List.getElem?_eq_some_iff.mp hk
    have hheld := halike.held_erase hi (Sound.taken_insert hset)
    rw [← h.live_eq, coe_eq_cons_eraseIdx hlt, hx] at hheld
    exact (Multiset.cons_inj_right _).mp hheld
  case cursor_eq => exact h.cursor_eq
  case in_order => exact h.in_order
  case unsearched => exact fun hlt => hsearches.trans (h.unsearched hlt)
  case recycled =>
    intro x older hsuffix hle
    rcases List.suffix_cons_iff.mp hsuffix with heq | hsuffix
    · cases heq
    · exact h.recycled x older hsuffix hle
  case spare =>
    intro j hj
    rw [hset, Finset.mem_insert] at hj
    rcases hj with rfl | hj
    · exact .inl rfl
    · exact .inr (h.spare j hj)

/-- **One request** is served, and keeps the account. -/
theorem serve_spec (h : u.Kept g start) (q : Request) : ∃ v, u.serve q = .ok v ∧ v.Kept g start := by
  cases q with
  | allocate =>
    rcases Nat.lt_or_eq_of_le h.sound.cursor_le with hc | hc
    · have halloc := h.sound.allocate_of_cursor_lt hc
      exact ⟨_, by rw [serve, halloc], h.advance hc⟩
    rcases u.arena.free.freeSet.eq_empty_or_nonempty with hfree | hfree
    · have halloc := h.sound.toLaid.allocate_of_full h.sound.exact hc hfree
      exact ⟨_, by rw [serve, halloc], h.search hc⟩
    · obtain ⟨i, m, hi, halloc, hset, hsound, halike⟩ := h.sound.allocate_of_free hc hfree
      exact ⟨_, by rw [serve, halloc], h.recycle hc hi hset hsound halike⟩
  | deallocate k =>
    rw [serve]
    cases hk : u.live[k]? with
    | none => exact ⟨u, rfl, h⟩
    | some x =>
      have hx : x ∈ u.arena.held := by
        rw [← h.live_eq]
        exact List.mem_of_getElem? hk
      obtain ⟨i, hi, rfl⟩ := Sound.mem_held.mp hx
      obtain ⟨m, hdealloc, hset, hsearches, hsound, halike⟩ := h.sound.deallocate_of_taken hi
      simp only [hdealloc]
      exact ⟨_, rfl, h.giveBack hk hi hset hsearches hsound halike⟩

/-- **All requests** are served, and keep the account. -/
theorem serveAll_spec (qs : List Request) : ∀ {u : Usage}, u.Kept g start →
    ∃ v, serveAll qs u = .ok v ∧ v.Kept g start := by
  induction qs with
  | nil => exact fun h => ⟨_, rfl, h⟩
  | cons q qs ih =>
    intro u h
    obtain ⟨v, hv, hkept⟩ := h.serve_spec q
    obtain ⟨w, hw, hkept'⟩ := ih hkept
    refine ⟨w, ?_, hkept'⟩
    rw [serveAll, hv]
    exact hw

/-! ## The account -/

theorem blockSize_eq (h : u.Kept g start) : u.arena.blockSize = g.blockSize :=
  (Geometry.ofBlockSize_fits h.sound.geometry).1.symm

theorem address_eq (h : u.Kept g start) (i : Nat) : u.arena.address i = start + i * g.blockSize := by
  rw [address, h.base_eq, h.blockSize_eq]

theorem mem_live (h : u.Kept g start) {x : Nat} : x ∈ u.live ↔ ∃ i ∈ u.arena.taken, u.arena.address i = x := by
  rw [← Sound.mem_held, ← h.live_eq, Multiset.mem_coe]

/-- All blocks are in use when all are taken. -/
theorem all_live_iff (h : u.Kept g start) :
    (∀ i < g.blockCount, start + i * g.blockSize ∈ u.live) ↔
      u.arena.cursor = u.arena.blockCount ∧ u.arena.free.freeSet = ∅ := by
  have hmem : ∀ i, start + i * g.blockSize ∈ u.live ↔ i ∈ u.arena.taken := by
    intro i
    rw [h.mem_live, ← h.address_eq]
    constructor
    · rintro ⟨j, hj, heq⟩
      exact h.sound.address_injective heq ▸ hj
    · exact fun hi => ⟨i, hi, rfl⟩
  simp only [hmem, Sound.mem_taken, ← h.sound.blockCount]
  constructor
  · intro hall
    have hpos : 0 < u.arena.blockCount := by
      rw [h.sound.blockCount]
      exact h.sound.fits.blockCount_pos
    have hlast := (hall (u.arena.blockCount - 1) (by omega)).1
    have hle := h.sound.cursor_le
    refine ⟨by omega, Finset.eq_empty_of_forall_notMem fun i hi => ?_⟩
    exact (hall i (Nat.lt_of_lt_of_le (h.sound.lt_cursor i hi) hle)).2 hi
  · rintro ⟨hc, hfree⟩ i hi
    rw [hc, hfree]
    exact ⟨hi, by simp⟩

/-- An allocation finds no block when all blocks are taken. -/
theorem allocate_eq_none_iff (h : u.Kept g start) :
    u.arena.allocate.1 = .ok none ↔ u.arena.cursor = u.arena.blockCount ∧ u.arena.free.freeSet = ∅ := by
  rcases Nat.lt_or_eq_of_le h.sound.cursor_le with hc | hc
  · rw [h.sound.allocate_of_cursor_lt hc]
    simp [Nat.ne_of_lt hc]
  rcases u.arena.free.freeSet.eq_empty_or_nonempty with hfree | hfree
  · rw [h.sound.toLaid.allocate_of_full h.sound.exact hc hfree]
    simp [hc, hfree]
  · obtain ⟨i, m, -, halloc, -⟩ := h.sound.allocate_of_free hc hfree
    rw [halloc]
    simp [hfree.ne_empty]

theorem accounted (h : u.Kept g start) : u.Accounted g start where
  bump_eq := by rw [h.sound.bump_eq, h.cursor_eq, h.blockSize_eq]
  bump_le := by
    rw [h.sound.bump_eq, ← h.sound.usable, h.sound.usable_eq]
    exact Nat.mul_le_mul_right _ h.sound.cursor_le
  in_order i hi x hx := by rw [h.in_order i hi x hx, h.address_eq]
  unsearched := h.unsearched
  recycled := h.recycled
  live_nodup := by
    rw [← Multiset.coe_nodup, h.live_eq]
    exact Multiset.nodup_of_le h.sound.held_le_grid h.sound.grid_nodup
  mem_live x := by
    have hcursor : u.arena.bump / g.blockSize = u.arena.cursor := by rw [cursor, h.blockSize_eq]
    rw [h.mem_live, hcursor]
    constructor
    · rintro ⟨i, hi, rfl⟩
      obtain ⟨hlt, hfree⟩ := Sound.mem_taken.mp hi
      exact ⟨i, hlt, by simpa using hfree, h.address_eq i⟩
    · rintro ⟨i, hlt, hfree, rfl⟩
      exact ⟨i, Sound.mem_taken.mpr ⟨hlt, by simp [hfree]⟩, h.address_eq i⟩
  isFull_iff := (h.sound.isFull_iff h.sound.exact).trans h.all_live_iff.symm
  none_iff := h.allocate_eq_none_iff.trans h.all_live_iff.symm
  none_changes hnone := by
    obtain ⟨hc, hfree⟩ := h.allocate_eq_none_iff.mp hnone
    rw [h.sound.toLaid.allocate_of_full h.sound.exact hc hfree]
    rfl

end Kept

/-- Nothing was handed out by a fresh arena. -/
theorem fresh_kept (policy : Policy) (region : Mapping) {size : Nat} {g : Geometry}
    (hg : Geometry.ofBlockSize size = .ok g) (hlen : region.len = regionBytes) (hstop : region.stop ≤ Size.limit) :
    ∃ a, create policy g region = .ok a ∧ (fresh a).Kept g region.start := by
  obtain ⟨a, hcreate, hsound, htaken, -⟩ := create_spec policy region hg hlen hstop
  obtain ⟨m, heq, -, hset, -, hsearches⟩ := create_eq policy region hsound.fits
  refine ⟨a, hcreate, ?_⟩
  have ha := Except.ok.inj (hcreate.symm.trans heq)
  have hheld := held_of_empty htaken
  subst ha
  constructor
  case sound => exact hsound
  case base_eq => rfl
  case live_eq => exact hheld.symm
  case cursor_eq => simp [fresh, handed, cursor]
  case in_order => simp [fresh, handed]
  case unsearched => exact fun _ => hsearches
  case recycled => simp [fresh]
  case spare =>
    intro i hi
    change i ∈ m.freeSet at hi
    rw [hset] at hi
    cases hi

/-- **Accounting.** For every block size that is allowed, a fresh arena serves all requests, and afterwards arena and
history agree. -/
theorem serveAll_accounted {size : Nat} (policy : Policy) {region : Mapping} (hpow : Size.isPowerOfTwo size = true)
    (hle : size ≤ regionBytes / 2) (hlen : region.len = regionBytes) (hstop : region.stop ≤ Size.limit)
    (qs : List Request) :
    ∃ g a u, Geometry.ofBlockSize size = .ok g ∧ g.blockSize = size ∧ create policy g region = .ok a ∧
      serveAll qs (fresh a) = .ok u ∧ u.Accounted g region.start := by
  obtain ⟨g, hg⟩ := Geometry.exists_ofBlockSize hpow hle
  obtain ⟨a, hcreate, hfresh⟩ := fresh_kept policy region hg hlen hstop
  obtain ⟨u, hu, hkept⟩ := hfresh.serveAll_spec qs
  exact ⟨g, a, u, hg, (Geometry.ofBlockSize_fits hg).1, hcreate, hu, hkept.accounted⟩

/-- Three blocks: a block given back before the end of the cursor is handed out again after all others, and once. -/
theorem serveAll_accounted_three_blocks :
    Size.isPowerOfTwo 0x1000000 = true ∧ 0x1000000 ≤ regionBytes / 2 ∧
      (Mapping.mk 4096 regionBytes).len = regionBytes ∧ (Mapping.mk 4096 regionBytes).stop ≤ Size.limit ∧
      ∃ g a u, Geometry.ofBlockSize 0x1000000 = .ok g ∧ create .shared g ⟨4096, regionBytes⟩ = .ok a ∧
        serveAll [.allocate, .allocate, .deallocate 1, .allocate, .allocate, .allocate] (fresh a) = .ok u ∧
        u.Accounted g 4096 ∧ handed u.past = [4096, 0x1001000, 0x2001000, 4096] := by
  refine ⟨by decide, by decide, rfl, by decide, ?_⟩
  obtain ⟨g, a, u, hg, -, ha, hu, hacc⟩ := @serveAll_accounted 0x1000000 .shared
    ⟨4096, regionBytes⟩ (by decide) (by decide) rfl (by decide)
    [.allocate, .allocate, .deallocate 1, .allocate, .allocate, .allocate]
  have hrun : (do
      let g ← Geometry.ofBlockSize 0x1000000
      let a ← create .shared g ⟨4096, regionBytes⟩
      let u ← serveAll [.allocate, .allocate, .deallocate 1, .allocate, .allocate, .allocate] (fresh a)
      return handed u.past) = .ok [4096, 0x1001000, 0x2001000, 4096] := by
    decide +kernel
  refine ⟨g, a, u, hg, ha, hu, hacc, ?_⟩
  rw [hg] at hrun
  change (create _ _ _).bind _ = _ at hrun
  rw [ha] at hrun
  change (serveAll _ _).bind _ = _ at hrun
  rw [hu] at hrun
  exact Except.ok.inj hrun

end Usage

end BlockHeap.Arena
