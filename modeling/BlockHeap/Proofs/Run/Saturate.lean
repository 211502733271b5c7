import BlockHeap.Proofs.Run.Alone
import BlockHeap.Proofs.Run.Start

/-!
# No block is ever lost

After any run, a pool still has all the blocks that are not in use, apart from those of the slots in which there will
never be an arena. Requests that nobody interferes with, and for which no mapping is refused, are served until all these
blocks are in use, and then find the pool exhausted (`requests_spec`); a block that is given back then is the one that
the next request gets (`run_saturates`).
-/

namespace BlockHeap

/-- A request for a number of bytes that nobody interferes with. -/
def Process.request (src : Source) (bytes : Nat) (s : Process) : Except Failure Nat × Call Ledger :=
  src.allocate (Call.alone s.1 s.2) bytes

/-- What comes of several requests. -/
structure Requests where
  /-- The answers, in order. -/
  answers : List (Except Failure Nat)
  /-- The events, in order. -/
  events : List Event
  /-- The process afterwards, with the blocks entered. -/
  process : Process

/-- `n` requests for a number of bytes, one after the other. -/
def Process.requests (src : Source) (bytes : Nat) : Nat → Process → Requests
  | 0, s => ⟨[], [], s⟩
  | n + 1, s =>
    let r := s.request src bytes
    let rest := requests src bytes n (settle src bytes r)
    ⟨r.1 :: rest.answers, r.2.events.toList ++ rest.events, rest.process⟩

/-- The number of blocks in use that are from a pool. -/
def Process.liveOf (s : Process) (k : Nat) : Nat := s.2.live.countP fun b => b.pool = some k

/-- The number of further blocks that a pool may give, with `perArena` blocks in an arena. -/
def Process.room (s : Process) (k perArena : Nat) : Nat :=
  ((s.1.pool k).maxArenas - (s.1.pool k).holes) * perArena - s.liveOf k

/-- What a request to an exhausted pool is answered with. -/
def Pool.exhausted (p : Pool) : Except Failure Nat := .error (.error (.poolExhausted p.blockSize p.maxArenas))

variable {src : Source} {h₀ : Heap} {claimed : Nat → List Nat} {pending : Multiset Mapping} {s : Process}
  {k bytes : Nat} {g : Arena.Geometry}

theorem Process.liveOf_of_rest {c : Call Ledger} (h : c.rest = s.2) : c.process.liveOf k = s.liveOf k := by
  rw [liveOf, liveOf, ← h, Call.process]

theorem Process.liveOf_enter_of_rest {c : Call Ledger} (h : c.rest = s.2) (x bytes : Nat) :
    (c.process.enter ⟨some k, x, bytes⟩).liveOf k = s.liveOf k + 1 := by
  rw [← liveOf_of_rest h]
  simp [liveOf, enter]

namespace Process.Sound

/-- The blocks in use that are from a pool are those it holds. -/
theorem liveOf_eq (hs : s.Sound src h₀ claimed pending) (k : Nat) :
    s.liveOf k = (s.1.pool k).held.card := by
  rw [← hs.heap.held k, Block.addresses, Multiset.card_map, Multiset.filter_coe, Multiset.coe_card, liveOf,
    List.countP_eq_length_filter]

theorem liveOf_le (hs : s.Sound src h₀ claimed pending)
    (hg : Arena.Geometry.ofBlockSize (s.1.pool k).blockSize = .ok g) :
    s.liveOf k ≤ ((s.1.pool k).maxArenas - (s.1.pool k).holes) * g.blockCount := by
  rw [hs.liveOf_eq k]
  exact (hs.heap.pools k).card_held_le hg

/-- Between processes with the same holes, the room goes down as the number of blocks in use goes up. -/
theorem room_eq {t : Process} (hs : s.Sound src h₀ claimed pending)
    (ht : t.Sound src h₀ claimed pending) (hholes : (t.1.pool k).holes = (s.1.pool k).holes) {m : Nat}
    (hlive : t.liveOf k = s.liveOf k + m) (perArena : Nat) : t.room k perArena = s.room k perArena - m := by
  rw [room, room, hholes, (hs.pool_alike ht k).2, hlive, Nat.sub_sub]

/-- Where one more block can be in use, there is room. -/
theorem room_pos {t : Process} (hs : s.Sound src h₀ claimed pending)
    (ht : t.Sound src h₀ claimed pending) (hg : Arena.Geometry.ofBlockSize (s.1.pool k).blockSize = .ok g)
    (hholes : (t.1.pool k).holes = (s.1.pool k).holes) (hlive : t.liveOf k = s.liveOf k + 1) :
    0 < s.room k g.blockCount := by
  obtain ⟨hsize, hmax⟩ := hs.pool_alike ht k
  have hle := ht.liveOf_le (hsize ▸ hg)
  rw [hlive, hholes, hmax] at hle
  rw [room]
  omega

theorem call_sound (hs : s.Sound src h₀ claimed pending) :
    (Call.alone s.1 s.2).Sound src h₀ claimed pending :=
  ⟨hs, fun _ hd => (nomatch hd), fun _ hf => (nomatch hf)⟩

/-- **One request**: a further block is in use, and there was room for it, or there was none; the holes stay. -/
theorem request_spec (hs : s.Sound src h₀ claimed pending) (hk : src.poolOf bytes = some k)
    (hg : Arena.Geometry.ofBlockSize (s.1.pool k).blockSize = .ok g) (hgrant : ¬(s.request src bytes).2.Refused) :
    (∃ x c, s.request src bytes = (.ok x, c) ∧ c.rest = s.2 ∧
      (c.process.enter ⟨some k, x, bytes⟩).Sound src h₀ claimed pending ∧
      (c.heap.pool k).holes = (s.1.pool k).holes ∧ 0 < s.room k g.blockCount) ∨
    (∃ c, s.request src bytes = ((s.1.pool k).exhausted, c) ∧ c.rest = s.2 ∧
      c.process.Sound src h₀ claimed pending ∧
      (c.heap.pool k).holes = (s.1.pool k).holes ∧ s.room k g.blockCount = 0) := by
  have hallocate : s.request src bytes = (Call.alone s.1 s.2).allocate k := Source.allocate_of_poolOf hk _
  have hcall := hs.call_sound
  have hended := hcall.allocate hk
  rw [hallocate] at hgrant ⊢
  have hkept : ∀ {q}, (s.1.pool k).Kept q → ((s.1.setPool k q).pool k).holes = (s.1.pool k).holes :=
    fun hq => (Heap.kept_setPool hq k).holes
  rcases hcall.allocate_alone (Call.alone_alone s.1 s.2) k with
    ⟨x, q, -, hq, h1⟩ | ⟨hfull, hmax, q, c, hq, h1, h2, h3⟩ | ⟨-, -, ⟨x, c, h1, h2, h3⟩ | ⟨e, c, h1, h2⟩⟩
  · rw [h1] at hended ⊢
    cases hended with
    | block hc =>
      rw [hk] at hc
      exact .inl ⟨x, _, rfl, rfl, hc, hkept hq, hs.room_pos hc hg (hkept hq) (liveOf_enter_of_rest rfl x bytes)⟩
  · have hcount : (s.1.pool k).count = (s.1.pool k).maxArenas :=
      Nat.le_antisymm (hs.heap.pools k).slots.count_le hmax
    have hcard := (hs.heap.pools k).card_held_of_full hg hfull hmax
    have h3' : (Call.alone s.1 s.2).allocate k = ((s.1.pool k).exhausted, c) := by
      rw [h3, Pool.exhausted, ← hcount]
      rfl
    rw [h3'] at hended ⊢
    refine .inr ⟨c, rfl, h1, ?_, ?_, ?_⟩
    · unfold Pool.exhausted at hended
      cases hended with
      | nothing hc => exact hc
    · rw [h2]
      exact hkept hq
    · rw [room, hs.liveOf_eq, hcard, Nat.sub_self]
  · rw [h1] at hended ⊢
    cases hended with
    | block hc =>
      rw [hk] at hc
      exact .inl ⟨x, c, rfl, h2, hc, h3, hs.room_pos hc hg h3 (liveOf_enter_of_rest h2 x bytes)⟩
  · rw [h1] at hgrant
    exact absurd h2 hgrant

/-- **Several requests**: as many are served as there is room for, and the others find the pool exhausted. -/
theorem requests_spec (n : Nat) : ∀ {s : Process}, s.Sound src h₀ claimed pending →
    src.poolOf bytes = some k → Arena.Geometry.ofBlockSize (s.1.pool k).blockSize = .ok g →
    (∀ size e, Event.mappingRefused size e ∉ (s.requests src bytes n).events) →
    ∃ xs : List Nat, (s.requests src bytes n).answers =
        xs.map .ok ++ List.replicate (n - s.room k g.blockCount) (s.1.pool k).exhausted ∧
      xs.length = min n (s.room k g.blockCount) ∧
      (s.requests src bytes n).process.2.live = s.2.live ++ xs.map (⟨some k, ·, bytes⟩) ∧
      (s.requests src bytes n).process.Sound src h₀ claimed pending ∧
      ((s.requests src bytes n).process.1.pool k).holes = (s.1.pool k).holes := by
  induction n with
  | zero =>
    intro s hs _ _ _
    exact ⟨[], by simp [requests], by simp, by simp [requests], hs, rfl⟩
  | succ n ih =>
    intro s hs hk hg hgrant
    have hgrant1 : ¬(s.request src bytes).2.Refused := by
      rintro ⟨size, e, hmem⟩
      exact hgrant size e (List.mem_append_left _ (Array.mem_toList_iff.mpr hmem))
    have hgrant2 : ∀ size e, Event.mappingRefused size e ∉
        (requests src bytes n (settle src bytes (s.request src bytes))).events :=
      fun size e hmem => hgrant size e (List.mem_append_right _ hmem)
    simp only [requests]
    rcases hs.request_spec hk hg hgrant1 with ⟨x, c, h1, h2, h3, h4, h5⟩ | ⟨c, h1, h2, h3, h4, h5⟩
    · have hsettle : settle src bytes (s.request src bytes) = c.process.enter ⟨some k, x, bytes⟩ := by
        rw [h1, settle, hk]
      rw [hsettle] at hgrant2 ⊢
      obtain ⟨hsize, hmax⟩ := hs.pool_alike h3 k
      have hroom := hs.room_eq h3 h4 (liveOf_enter_of_rest h2 x bytes) g.blockCount
      obtain ⟨xs, k1, k2, k3, k4, k5⟩ := ih h3 hk (hsize ▸ hg) hgrant2
      refine ⟨x :: xs, ?_, ?_, ?_, k4, k5.trans h4⟩
      · rw [k1, h1, Pool.exhausted, hsize, hmax, hroom, show n + 1 - s.room k g.blockCount =
          n - (s.room k g.blockCount - 1) by omega]
        rfl
      · rw [List.length_cons, k2, hroom]
        omega
      · rw [k3, show (c.process.enter ⟨some k, x, bytes⟩).2.live = s.2.live ++ [⟨some k, x, bytes⟩] from
          congrArg (·.live ++ _) h2, List.append_assoc]
        rfl
    · have hsettle : settle src bytes (s.request src bytes) = c.process := by
        rw [h1]
        rfl
      rw [hsettle] at hgrant2 ⊢
      obtain ⟨hsize, hmax⟩ := hs.pool_alike h3 k
      have hroom := hs.room_eq h3 h4 (m := 0) (liveOf_of_rest h2) g.blockCount
      rw [h5] at hroom
      obtain ⟨xs, k1, k2, k3, k4, k5⟩ := ih h3 hk (hsize ▸ hg) hgrant2
      rw [hroom, Nat.min_zero] at k2
      obtain rfl := List.length_eq_zero_iff.mp k2
      refine ⟨[], ?_, by simp [h5], ?_, k4, k5.trans h4⟩
      · rw [k1, h1, h5, hroom, Pool.exhausted, Pool.exhausted, hsize, hmax]
        rfl
      · rw [k3, show c.process.2 = s.2 from h2]

/-- Where there is no room, all blocks are held. -/
theorem held_eq_grid (hs : s.Sound src h₀ claimed pending)
    (hg : Arena.Geometry.ofBlockSize (s.1.pool k).blockSize = .ok g) (hroom : s.room k g.blockCount = 0) :
    (s.1.pool k).held = (s.1.pool k).grid := by
  have hpool := hs.heap.pools k
  have hcard := hpool.slots.card_arenas
  have hle := hpool.slots.count_le
  refine Multiset.eq_of_le_of_card_le hpool.held_le_grid ?_
  have hmul : (s.1.pool k).arenas.card * g.blockCount ≤
      ((s.1.pool k).maxArenas - (s.1.pool k).holes) * g.blockCount := Nat.mul_le_mul_right _ (by omega)
  rw [hpool.card_grid hg, ← hs.liveOf_eq]
  rw [room] at hroom
  omega

/-- **A block given back to a full pool** is the one that the next request gets, without a mapping. -/
theorem request_deallocated (hs : s.Sound src h₀ claimed pending)
    (hk : src.poolOf bytes = some k) (hfull : (s.1.pool k).held = (s.1.pool k).grid) {i : Nat} {b : Block}
    (hi : s.2.live[i]? = some b) (hb : b.pool = some k) :
    ∃ c d, src.deallocate (Call.alone s.1 s.2) b.address b.bytes = (.ok (), c) ∧
      (c.process.strike i).request src bytes = (.ok b.address, d) ∧
      (d.heap.pool k).count = (s.1.pool k).count ∧ d.heap.os = c.heap.os ∧ d.events = #[] := by
  obtain ⟨c, h1, h2, h3, h4⟩ := hs.deallocate_spec hi (src.accepts_self b.bytes)
  have hheld : (s.1.pool k).held = b.address ::ₘ (c.heap.pool k).held := by
    have hafter := h4.heap.held k
    rw [show (c.process.strike i).2.live = s.2.live.eraseIdx i from congrArg (·.live.eraseIdx i) h2] at hafter
    rw [← hs.heap.held k, coe_live_eq_cons hi, Block.addresses_cons_self hb, hafter]
    rfl
  have hgrid : (c.heap.pool k).grid = b.address ::ₘ (c.heap.pool k).held := by
    rw [(h3 k).grid, ← hfull, hheld]
  have hnot : (c.heap.pool k).held ≠ (c.heap.pool k).grid := by
    intro heq
    have hcard := congrArg Multiset.card hgrid
    rw [← heq, Multiset.card_cons] at hcard
    omega
  have hrequest : (c.process.strike i).request src bytes =
      (Call.alone (c.process.strike i).1 (c.process.strike i).2).allocate k := Source.allocate_of_poolOf hk _
  rcases h4.call_sound.allocate_alone (Call.alone_alone _ _) k with
    ⟨x, q, k1, k2, k3⟩ | ⟨k1, -⟩ | ⟨k1, -⟩
  · have htook := (h4.heap.pools k).takeExisting_took (c.heap.pool k).count
    have k1' : ((c.process.strike i).1.pool k).takeExisting (c.heap.pool k).count = (.ok (some x), q) := k1
    rw [k1'] at htook
    cases htook with
    | block hq hkept hx =>
      -- the block taken and those still held are all that there are
      have hle := hq.held_le_grid
      rw [hkept.grid, hx] at hle
      have hsame : x ::ₘ (c.heap.pool k).held = b.address ::ₘ (c.heap.pool k).held := by
        refine (Multiset.eq_of_le_of_card_le hle ?_).trans hgrid
        rw [show ((c.process.strike i).1.pool k).grid = b.address ::ₘ (c.heap.pool k).held from hgrid,
          Multiset.card_cons]
        exact (Multiset.card_cons _ _).ge
      obtain rfl := (Multiset.cons_inj_left _).mp hsame
      refine ⟨c, _, h1, hrequest.trans k3, ?_, rfl, rfl⟩
      exact ((Heap.kept_setPool k2 k).count.trans (h3 k).count)
  · exact absurd k1 hnot
  · exact absurd k1 hnot

end Process.Sound

/-- **No block is ever lost.** After any run on a fresh heap, `n` requests that are served by pool `k`, with nobody
interfering and no mapping refused, are answered with blocks that were not in use as long as there is room, and then
that the pool is exhausted. When there is no room left, any block of the pool can be given back and is what the next
request gets, from the same number of arenas. -/
theorem run_saturates (hfresh : h₀.Fresh) (ops : List Op) (hk : src.poolOf bytes = some k)
    (hg : Arena.Geometry.ofBlockSize (h₀.pool k).blockSize = .ok g) (n : Nat)
    (hgrant : ∀ size e, Event.mappingRefused size e ∉
      ((runAll src ops (Process.start h₀)).requests src bytes n).events) :
    let s := runAll src ops (Process.start h₀)
    let t := (s.requests src bytes n).process
    (∃ xs : List Nat, (s.requests src bytes n).answers =
        xs.map .ok ++ List.replicate (n - s.room k g.blockCount) (h₀.pool k).exhausted ∧
      xs.length = min n (s.room k g.blockCount) ∧ xs.Nodup ∧
      (∀ x ∈ xs, ∀ b ∈ s.2.live, b.pool = some k → b.address ≠ x) ∧
      t.2.live = s.2.live ++ xs.map (⟨some k, ·, bytes⟩)) ∧
    (s.room k g.blockCount ≤ n → ∀ i b, t.2.live[i]? = some b → b.pool = some k →
      ∃ c d, src.deallocate (Call.alone t.1 t.2) b.address b.bytes = (.ok (), c) ∧
        (c.process.strike i).request src bytes = (.ok b.address, d) ∧
        (d.heap.pool k).count = (t.1.pool k).count ∧ d.heap.os = c.heap.os ∧ d.events = #[]) := by
  intro s t
  have hs : s.Sound src h₀ (fun _ => []) h₀.os.space.live := hfresh.run_sound src ops
  have hsize : (s.1.pool k).blockSize = (h₀.pool k).blockSize := (hs.alike.pool k).blockSize
  have hmax : (s.1.pool k).maxArenas = (h₀.pool k).maxArenas := (hs.alike.pool k).maxArenas
  have hg' : Arena.Geometry.ofBlockSize (s.1.pool k).blockSize = .ok g := hsize ▸ hg
  obtain ⟨xs, h1, h2, h3, h4, h5⟩ := hs.requests_spec n hk hg' hgrant
  -- the addresses of the blocks from the pool are those from before and the new ones
  have hnodup : (Block.addresses s.2.live k + xs).Nodup := by
    have hall := h4.heap.addresses_nodup k
    rwa [h3, ← Multiset.coe_add, Block.addresses_add, Block.addresses_map] at hall
  rw [Multiset.nodup_add] at hnodup
  obtain ⟨-, hnew, hother⟩ := hnodup
  refine ⟨⟨xs, ?_, h2, Multiset.coe_nodup.mp hnew, fun x hx b hb hbk heq => ?_, h3⟩, fun hroom i b hi hb => ?_⟩
  · rw [h1, Pool.exhausted, Pool.exhausted, hsize, hmax]
  · exact Multiset.disjoint_left.mp hother (heq ▸ Block.mem_addresses hbk (Multiset.mem_coe.mpr hb)) hx
  · have hsize' := (hs.pool_alike h4 k).1
    have hlive : t.liveOf k = s.liveOf k + xs.length := by
      rw [Process.liveOf, h3, List.countP_append, List.countP_map, Process.liveOf, Nat.add_right_inj]
      exact List.countP_eq_length.mpr fun x _ => by simp
    have hzero : t.room k g.blockCount = 0 := by
      rw [hs.room_eq h4 h5 hlive, h2, Nat.min_eq_right hroom, Nat.sub_self]
    exact h4.request_deallocated hk (h4.held_eq_grid (hsize' ▸ hg') hzero) hi hb

/-- A pool that may have three arenas, with the largest blocks. -/
def threeArenas : Pool := ⟨.shared, SizeClass.greatest, 3, by decide, Vector.replicate _ none, 0, 0⟩

theorem threeArenas_fresh : ((Heap.onOs .standard).addPools [threeArenas]).Fresh := by
  refine (Heap.Fresh.onOs Os.standard_sound).addPools (List.forall_mem_singleton.mpr ?_)
  refine ⟨⟨some SizeClass.greatest, some 3⟩, .shared, ⟨fun size h => ?_, fun n h => ?_⟩, rfl⟩
  · exact Option.some.inj h ▸ by decide
  · exact Option.some.inj h ▸ by decide

/-- An arena has 15 of the largest blocks. -/
theorem blockCount_greatest {g : Arena.Geometry} (hg : Arena.Geometry.ofBlockSize SizeClass.greatest = .ok g) :
    g.blockCount = 15 := by
  have hmap : (Arena.Geometry.ofBlockSize SizeClass.greatest).map (·.blockCount) = .ok 15 := by decide +kernel
  rw [hg] at hmap
  exact Except.ok.inj hmap

/-- While an arena is mapped for a first slot, others get one in a second slot; then the first mapping is refused. -/
def overtakenRun : List Op := [.allocate 1 [.mk [.allocate 1 [] []] true] []]

theorem run_saturates_overtaken :
    let s := runAll (.pool 0) overtakenRun (Process.start ((Heap.onOs .standard).addPools [threeArenas]))
    let t := (s.requests (.pool 0) 1 30).process
    (s.1.pool 0).holes = 1 ∧ s.liveOf 0 = 1 ∧
    (∃ xs : List Nat, (s.requests (.pool 0) 1 30).answers =
      xs.map .ok ++ [.error (.error (.poolExhausted SizeClass.greatest 3))] ∧ xs.length = 29 ∧ xs.Nodup) ∧
    ∃ b c d, t.2.live[5]? = some b ∧
      Source.deallocate (.pool 0) (Call.alone t.1 t.2) b.address b.bytes = (.ok (), c) ∧
      (c.process.strike 5).request (.pool 0) 1 = (.ok b.address, d) := by
  intro s t
  obtain ⟨g, hg⟩ := Arena.Geometry.exists_ofBlockSize (show Size.isPowerOfTwo SizeClass.greatest = true by decide)
    (by decide)
  have hroom : s.room 0 g.blockCount = 29 := by
    rw [blockCount_greatest hg]
    decide +kernel
  have hgrant : ∀ e ∈ (s.requests (.pool 0) 1 30).events, (e matches .mappingRefused ..) = false := by decide +kernel
  obtain ⟨⟨xs, h1, h2, h3, -, h4⟩, hfull⟩ := run_saturates threeArenas_fresh overtakenRun
    (show (Source.pool 0).poolOf 1 = some 0 from rfl) hg 30 fun size e he => nomatch hgrant _ he
  have hs : runAll (.pool 0) overtakenRun (Process.start ((Heap.onOs .standard).addPools [threeArenas])) = s := rfl
  have ht : (s.requests (.pool 0) 1 30).process = t := rfl
  rw [hs, hroom] at h1 h2 hfull
  rw [hs, ht] at h4
  rw [ht] at hfull
  have hbefore : s.2.live.length = 1 := by decide +kernel
  obtain ⟨x, hx⟩ : ∃ x, xs[4]? = some x := ⟨_, List.getElem?_eq_getElem (h2.trans_gt (by decide))⟩
  have hb : t.2.live[5]? = some ⟨some 0, x, 1⟩ := by
    rw [h4, List.getElem?_append_right (hbefore.trans_le (by decide)), hbefore, List.getElem?_map, hx, Option.map_some]
  obtain ⟨c, d, h5, h6, -⟩ := hfull (by decide) 5 _ hb rfl
  exact ⟨by decide +kernel, by decide +kernel, ⟨xs, h1, h2, h3⟩, _, c, d, hb, h5, h6⟩

end BlockHeap
