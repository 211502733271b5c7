import BlockHeap.Proofs.Heap.Path

/-!
# How allocations end

The work of an allocation follows a path, part by part: asking for a mapping (`OnCourse.map_spec`), making an arena
(`OnCourse.houseArena_spec`), filling the claimed slot (`OnCourse.fillSlot_spec`) and a whole round
(`OnCourse.round_spec`).

Every allocation from a regular pool ends in one of three ways (`Call.Ends`): with a block, with the pool exhausted, or
with a mapping that was refused, and then the claimed slot is given back last of all. It never ends with a fault, and
never takes more rounds than it may take, since each round after the first one has an arena more to count on
(`OnCourse.allocate_ends`). Whatever its end, it leads the heap on and keeps the pact (`Ends.led`); so do the calls that
serve oversized blocks, and those that give blocks back.
-/

namespace BlockHeap.Call

open Pool (Growths)
open Pool.Growths (Honest)

variable {ε : Type} {P : Pact ε} {claimed : Nat → List Nat} {k slot size n : Nat} {c c' : Call ε} {held : List Nat}

/-! ## Mappings -/

/-- Others work before the operating system answers. -/
theorem asked_path (c : Call ε) (held : List Nat) : Path k (c, held)
    (({ c with decisions := c.decisions.tail }).interlude (c.decisions.headD .grant).meanwhile, held) := by
  cases hd : c.decisions with
  | nil =>
    obtain ⟨heap, rest, decisions, growths, events⟩ := c
    obtain rfl : decisions = [] := hd
    exact .refl
  | cons d ds => exact .single (.meanwhile c held hd)

/-- **Asking for a mapping.** -/
theorem OnCourse.map_spec (hx : OnCourse P claimed k (c, held)) (size : Nat) :
    (∃ m c', c.map size = (.ok m, c') ∧ Path k (c, held) (c', held) ∧ m.len = Size.roundUp size pageSize ∧
      m.stop ≤ Size.limit ∧ pageSize ∣ m.start ∧ 0 < m.start) ∨
    (∃ e c', c.map size = (.error (.map size e), c') ∧ Path k (c, held) (c', held)) := by
  have hasked := asked_path (k := k) c held
  have hos := (hasked.keeps hx).1.regular.os
  rcases hos.map_spec size (c.decisions.headD .grant).refuse with ⟨m, os, h1, h2, h3, h4⟩ | ⟨e, os, h1, h2, -⟩
  · have hfits := h2.fits m (h3 ▸ List.mem_cons_self)
    refine .inl ⟨m, _, map_of_answer rfl h1, hasked.tail ?_, h4, hfits.stop_le, hfits.aligned, hos.start_pos h1⟩
    rw [refusals, Array.append_empty]
    exact .answer _ held _ fun _ => h2
  · refine .inr ⟨e, _, map_of_answer rfl h1, ?_⟩
    rw [refusals, ← Array.push_eq_append]
    exact (hasked.tail (.answer _ held _ fun _ => h2)).tail (.log _ held rfl)

/-- Giving a mapping back. -/
theorem unmap_path (c : Call ε) (held : List Nat) (m : Mapping) : Path k (c, held) (c.unmap m, held) :=
  .single (.answer c held _ fun h => h.unmap m)

/-! ## Arenas -/

/-- Mapping the region of an arena. -/
theorem OnCourse.mapArena_spec (hx : OnCourse P claimed k (c, held)) (policy : Policy) {g : Arena.Geometry}
    (hg : Arena.Geometry.ofBlockSize size = .ok g) :
    (∃ a c', c.mapArena policy size = (.ok a, c') ∧ Path k (c, held) (c', held) ∧ a.New size) ∨
    (∃ n e c', c.mapArena policy size = (.error (.error (.map n e)), c') ∧ Path k (c, held) (c', held)) := by
  rcases hx.map_spec Arena.regionBytes with ⟨m, c', h1, h2, h3, h4, -⟩ | ⟨e, c', h1, h2⟩
  · obtain ⟨a, hcreate, -⟩ := Arena.create_spec policy m hg h3 h4
    refine .inl ⟨a, c'.log (.arenaMapped policy g.blockSize g.blockCount g.usable), ?_, h2.tail (.log c' held rfl),
      policy, m, g, hg, h3, h4, hcreate⟩
    rw [Call.mapArena, hg]
    simp only [h1, hcreate]
  · refine .inr ⟨Arena.regionBytes, e, c', ?_, h2⟩
    rw [Call.mapArena, hg]
    simp only [h1]

/-- **Making an arena.** -/
theorem OnCourse.houseArena_spec (hx : OnCourse P claimed k (c, held)) (policy : Policy) {g : Arena.Geometry}
    (hg : Arena.Geometry.ofBlockSize size = .ok g) :
    (∃ r c', c.houseArena policy size = (.ok r, c') ∧ Path k (c, held) (c', held) ∧ r.value.New size) ∨
    (∃ n e c', c.houseArena policy size = (.error (.error (.map n e)), c') ∧ Path k (c, held) (c', held)) := by
  rcases hx.mapArena_spec policy hg with ⟨a, c1, h1, h2, h3⟩ | ⟨n, e, c1, h1, h2⟩
  · rcases (h2.keeps hx).1.map_spec Arena.headerBytes with ⟨m, c2, k1, k2, -⟩ | ⟨e, c2, k1, k2⟩
    · refine .inl ⟨⟨a, m⟩, c2, ?_, h2.trans k2, h3⟩
      rw [Call.houseArena, h1]
      simp only [Call.house, k1]
    · refine .inr ⟨Arena.headerBytes, e, c2.unmap a.region, ?_, (h2.trans k2).trans (unmap_path c2 held a.region)⟩
      rw [Call.houseArena, h1]
      simp only [Call.house, k1]
  · refine .inr ⟨n, e, c1, ?_, h2⟩
    rw [Call.houseArena, h1]

/-! ## Slots -/

/-- Others work on the occasion of a growth. -/
theorem announceGrowth_path (c : Call ε) (held : List Nat) : Path k (c, held) (c.announceGrowth, held) := by
  rw [announceGrowth]
  cases hf : c.growths with
  | nil =>
    obtain ⟨heap, rest, decisions, growths, events⟩ := c
    obtain rfl : growths = [] := hf
    exact .refl
  | cons f fs => exact .single (.grown c held hf)

/-- What a call comes to that gives a slot of pool `k` back, as no arena could be made. -/
def gaveBack (c : Call ε) (k slot : Nat) (policy : Policy) (blockSize : Nat) : Call ε :=
  (c.onPool k (·.giveBack slot)).2.log (.growthFailed policy blockSize slot (c.onPool k (·.giveBack slot)).1)

theorem heap_gaveBack (c : Call ε) (k slot : Nat) (policy : Policy) (blockSize : Nat) :
    (c.gaveBack k slot policy blockSize).heap = c.heap.setPool k ((c.heap.pool k).giveBack slot).2 := by
  rw [gaveBack, onPool_eq]
  rfl

theorem rest_gaveBack (c : Call ε) (k slot : Nat) (policy : Policy) (blockSize : Nat) :
    (c.gaveBack k slot policy blockSize).rest = c.rest := by
  rw [gaveBack, onPool_eq]
  rfl

theorem events_gaveBack (c : Call ε) (k slot : Nat) (policy : Policy) (blockSize : Nat) :
    (c.gaveBack k slot policy blockSize).events.toList =
      c.events.toList ++ [.growthFailed policy blockSize slot ((c.heap.pool k).giveBack slot).1] := by
  rw [gaveBack, onPool_eq]
  exact Array.toList_push

/-- The limit of a pool with a claimed slot is positive. -/
theorem OnCourse.limit_pos (hx : OnCourse P claimed k (c, [slot])) : 0 < (c.heap.pool k).maxArenas := by
  have hslots := (hx.regular.pools k).slots
  rw [holding_self] at hslots
  exact Nat.zero_lt_of_lt (Nat.lt_of_lt_of_le (hslots.lt_count slot List.mem_cons_self) hslots.count_le)

/-- **A claimed slot** is filled, or given back. -/
theorem OnCourse.fillSlot_spec (hx : OnCourse P claimed k (c, [slot])) :
    (∃ c', c.fillSlot k slot = (.ok (), c') ∧ Path k (c, [slot]) (c', []) ∧
      ((c'.heap.pool k).slot? slot).isSome = true) ∨
    (∃ n e c', c.fillSlot k slot = (.error (.error (.map n e)),
        c'.gaveBack k slot (c.heap.pool k).policy (c.heap.pool k).blockSize) ∧
      Path k (c, [slot]) (c', [slot])) := by
  obtain ⟨g, hg⟩ := (hx.regular.pools k).geometry hx.limit_pos
  rcases hx.houseArena_spec (c.heap.pool k).policy hg with ⟨r, c1, h1, h2, h3⟩ | ⟨n, e, c1, h1, h2⟩
  · obtain ⟨hx1, hl⟩ := h2.keeps hx
    have hsize : (c1.heap.pool k).blockSize = (c.heap.pool k).blockSize := (hl.onward hx.regular k).blockSize
    have hslots := (hx1.regular.pools k).slots
    rw [holding_self] at hslots
    rw [← hsize] at h3
    have hpublish : Step k (c1, [slot]) _ := .publish c1 (c.heap.pool k).policy (c.heap.pool k).blockSize h3
    have hfilled : (((c1.withPool k ((c1.heap.pool k).publish slot r)).heap.pool k).slot? slot).isSome = true := by
      rw [withPool, Heap.pool_setPool_self (Heap.lt_size hx1.limit_pos)]
      exact congrArg Option.isSome (Pool.slot?_putSlot_self (hslots.held_lt_capacity List.mem_cons_self) (some r))
    obtain ⟨hx2, -⟩ := hpublish.keeps hx1
    have hgrown := announceGrowth_path (k := k)
      ((c1.withPool k ((c1.heap.pool k).publish slot r)).log (.poolGrew (c.heap.pool k).policy
        (c.heap.pool k).blockSize slot)) []
    refine .inl ⟨_, ?_, (h2.tail hpublish).trans hgrown,
      ((hgrown.keeps hx2).2.onward hx2.regular k).isSome_slot? hfilled⟩
    rw [fillSlot_of_ok h1, modifyPool, onPool_eq]
    rfl
  · exact .inr ⟨n, e, c1, fillSlot_of_error h1, h2⟩

/-! ## Allocation from a pool -/

/-- How an allocation from pool `k` ends. -/
inductive Ends (k : Nat) (c : Call ε) : Except Failure Nat × Call ε → Prop where
  | block {x : Nat} {c' : Call ε} (hpath : Path k (c, []) (c', [])) (hblock : (c'.heap.pool k).HasBlock x) :
    Ends k c (.ok x, c')
  /-- There may be no more arenas. -/
  | exhausted {size n : Nat} {c' : Call ε} (hpath : Path k (c, []) (c', [])) :
    Ends k c (.error (.error (.poolExhausted size n)), c')
  /-- A mapping was refused, and the slot that it was for is given back. -/
  | refused {n slot size : Nat} {e : OsError} {policy : Policy} {c' : Call ε} (hpath : Path k (c, []) (c', [slot])) :
    Ends k c (.error (.error (.map n e)), c'.gaveBack k slot policy size)

/-- The answers with which an allocation ends. -/
theorem Ends.answer {r : Except Failure Nat × Call ε} (h : Ends k c r) : (∃ x, r.1 = .ok x) ∨
    (∃ n e, r.1 = .error (.error (.map n e))) ∨ ∃ size n, r.1 = .error (.error (.poolExhausted size n)) := by
  cases h with
  | block => exact .inl ⟨_, rfl⟩
  | exhausted => exact .inr (.inr ⟨_, _, rfl⟩)
  | refused => exact .inr (.inl ⟨_, _, rfl⟩)

/-- The round before it. -/
theorem Ends.after {r : Except Failure Nat × Call ε} (hpath : Path k (c, []) (c', [])) (h : Ends k c' r) :
    Ends k c r := by
  cases h with
  | block h hblock => exact .block (hpath.trans h) hblock
  | exhausted h => exact .exhausted (hpath.trans h)
  | refused h => exact .refused (hpath.trans h)

/-- Work in the arenas of a pool is that for a call too, even if the pool is not there. -/
theorem withPool_steady {q : Pool} (h : (c.heap.pool k).Steady q) :
    (c.heap.pool k).Steady ((c.withPool k q).heap.pool k) := by
  rcases Nat.lt_or_ge k c.heap.pools.size with hk | hk
  · rwa [withPool, Heap.pool_setPool_self hk]
  · rw [withPool, Heap.setPool_of_le hk]
    exact .refl _

/-- Looking for a block in a call: what is found is a block of the pool. -/
theorem OnCourse.took (hx : OnCourse P claimed k (c, held)) {f : Pool → Except Fault (Option Nat) × Pool}
    (hwork : (c.heap.pool k).Work (f (c.heap.pool k)).2)
    (hcases : (∃ x q, f (c.heap.pool k) = (.ok (some x), q) ∧ q.HasBlock x) ∨
      (∃ q, f (c.heap.pool k) = (.ok none, q))) :
    ∃ found, c.onPool k f = (.ok found, c.withPool k (f (c.heap.pool k)).2) ∧
      ∀ x, found = some x → ((c.withPool k (f (c.heap.pool k)).2).heap.pool k).HasBlock x := by
  rw [onPool_eq]
  rcases hcases with ⟨x, q, hq, hblock⟩ | ⟨q, hq⟩
  · rw [hq] at hwork ⊢
    -- a pool that has blocks is one of the heap's
    have hk : k < c.heap.pools.size := by
      obtain ⟨i, r, -, hr, -⟩ := hblock
      have hslots := (hx.regular.pools k).slots.steady hwork.toSteady
      have hlt := hslots.lt_of_isSome i (by rw [hr]; rfl)
      rw [hwork.count] at hlt
      exact Heap.lt_size (Nat.zero_lt_of_lt (Nat.lt_of_lt_of_le hlt (hx.regular.pools k).slots.count_le))
    refine ⟨some x, rfl, fun y hy => ?_⟩
    obtain rfl := Option.some.inj hy
    rwa [withPool, Heap.pool_setPool_self hk]
  · rw [hq]
    exact ⟨none, rfl, by simp⟩

/-- The search of a round. -/
theorem OnCourse.search_spec (hx : OnCourse P claimed k (c, [])) :
    ∃ found c', c.onPool k (·.takeExisting (c.heap.pool k).count) = (.ok found, c') ∧ Path k (c, []) (c', []) ∧
      (∀ x, found = some x → (c'.heap.pool k).HasBlock x) ∧ (c'.heap.pool k).count = (c.heap.pool k).count := by
  have hregular := hx.regular.pools k
  rw [holding_nil] at hregular
  have hwork := (c.heap.pool k).takeExisting_work (c.heap.pool k).count
  obtain ⟨found, hfound, hblock⟩ :=
    hx.took (f := (·.takeExisting (c.heap.pool k).count)) hwork hregular.takeExisting_cases
  exact ⟨found, _, hfound, .single (.search c [] _), hblock, (withPool_steady hwork.toSteady).count⟩

/-- Trying one slot. -/
theorem OnCourse.takeFrom_spec (hx : OnCourse P claimed k (c, [])) (i : Nat) :
    ∃ found c', c.onPool k (·.takeFrom i) = (.ok found, c') ∧ Path k (c, []) (c', []) ∧
      (∀ x, found = some x → (c'.heap.pool k).HasBlock x) ∧ (c'.heap.pool k).count = (c.heap.pool k).count := by
  have hregular := hx.regular.pools k
  rw [holding_nil] at hregular
  have hwork := (c.heap.pool k).takeFrom_work i
  obtain ⟨found, hfound, hblock⟩ := hx.took (f := (·.takeFrom i)) hwork (hregular.takeFrom_cases i)
  exact ⟨found, _, hfound, .single (.take c [] i), hblock, (withPool_steady hwork.toSteady).count⟩

/-- The next slot is claimed. -/
theorem claim_path (hlimit : (c.heap.pool k).count < (c.heap.pool k).maxArenas) :
    ∃ c', c.onPool k (·.claimSlot (c.heap.pool k).count) = (true, c') ∧ Path k (c, []) (c', [(c.heap.pool k).count]) :=
  ⟨_, onPool_claimSlot rfl, .single (.claim c hlimit)⟩

/-- **One round** ends the allocation, or it leaves behind a pool that counts more arenas. -/
theorem OnCourse.round_spec (hx : OnCourse P claimed k (c, [])) :
    (∃ r c', c.round k = (some r, c') ∧ Ends k c (r, c')) ∨
    (∃ c', c.round k = (none, c') ∧ Path k (c, []) (c', []) ∧
      (c.heap.pool k).count < (c'.heap.pool k).count) := by
  obtain ⟨found, c1, h1, hsearch, hfound, hcount⟩ := hx.search_spec
  cases found with
  | some x => exact .inl ⟨_, _, round_of_found h1, .block hsearch (hfound x rfl)⟩
  | none =>
    by_cases hmax : (c1.heap.pool k).maxArenas ≤ (c.heap.pool k).count
    · exact .inl ⟨_, _, round_of_full h1 hmax, .exhausted (hsearch.tail (.log c1 [] rfl))⟩
    obtain ⟨c2, h2, hclaim⟩ := claim_path (k := k) (c := c1) (by omega)
    rw [hcount] at h2 hclaim
    rcases (Path.keeps (hsearch.trans hclaim) hx).1.fillSlot_spec with ⟨c3, h3, hfill, hfilled⟩ | ⟨n, e, c3, h3, hfill⟩
    · have hpath := (hsearch.trans hclaim).trans hfill
      have hx3 := (Path.keeps hpath hx).1
      obtain ⟨found, c4, h4, htake, hfound4, hcount4⟩ := hx3.takeFrom_spec (c.heap.pool k).count
      cases found with
      | some x => exact .inl ⟨_, _, round_of_grown h1 hmax h2 h3 h4, .block (hpath.trans htake) (hfound4 x rfl)⟩
      | none =>
        -- the slot that was claimed is filled, so it is counted
        refine .inr ⟨_, round_of_outrun h1 hmax h2 h3 h4, hpath.trans htake, ?_⟩
        rw [hcount4]
        exact (hx3.regular.pools k).slots.lt_of_isSome _ hfilled
    · exact .inl ⟨_, _, round_of_failed h1 hmax h2 h3, .refused ((hsearch.trans hclaim).trans hfill)⟩

theorem OnCourse.rounds_ends (fuel : Nat) : ∀ {c : Call ε}, OnCourse P claimed k (c, []) →
    (c.heap.pool k).maxArenas - (c.heap.pool k).count < fuel → Ends k c (c.rounds k fuel) := by
  induction fuel with
  | zero =>
    intro c _ hfuel
    exact absurd hfuel (Nat.not_lt_zero _)
  | succ fuel ih =>
    intro c hx hfuel
    rw [Call.rounds]
    rcases hx.round_spec with ⟨r, c', h1, h2⟩ | ⟨c', h1, hpath, hlt⟩
    · rw [h1]
      exact h2
    · rw [h1]
      obtain ⟨hx', hl⟩ := hpath.keeps hx
      have hle : (c'.heap.pool k).count ≤ (c'.heap.pool k).maxArenas := (hx'.regular.pools k).slots.count_le
      have hsame : (c'.heap.pool k).maxArenas = (c.heap.pool k).maxArenas := (hl.onward hx.regular k).maxArenas
      exact (ih hx' (by omega)).after hpath

/-- **An allocation from a regular pool** ends with a block, with the pool exhausted, or with a mapping refused. -/
theorem OnCourse.allocate_ends (hx : OnCourse P claimed k (c, [])) : Ends k c (c.allocate k) :=
  hx.rounds_ends _ (Nat.lt_succ_self _)

/-! ## What calls leave behind -/

/-- The heap has led on to that of a later state of the call, and the pact is kept. -/
def Led (P : Pact ε) (claimed : Nat → List Nat) (c c' : Call ε) : Prop :=
  c.heap.Leads claimed c'.heap claimed ∧ P.Good (c'.heap, c'.rest)

/-- The call holds no slot yet. -/
theorem Fair.onCourse (hc : c.Fair P) (hr : c.heap.Regular claimed) (k : Nat) : OnCourse P claimed k (c, []) := by
  refine ⟨hc, ?_⟩
  rw [holding_nil]
  exact hr

/-- A path on which all slots were filled that were claimed. -/
theorem Path.led (h : Path k (c, []) (c', [])) (hx : OnCourse P claimed k (c, [])) : Led P claimed c c' := by
  obtain ⟨hx', hl⟩ := h.keeps hx
  rw [Leads, holding_nil] at hl
  exact ⟨hl, hx'.fair.good⟩

/-- A slot is given back. -/
theorem OnCourse.gaveBack (hx : OnCourse P claimed k (c, [slot])) (policy : Policy) (size : Nat) :
    c.heap.Leads (holding claimed k [slot]) (c.gaveBack k slot policy size).heap claimed := by
  have hset : c.heap.Leads (holding claimed k [slot]) (c.heap.setPool k ((c.heap.pool k).giveBack slot).2)
      (Function.update (holding claimed k [slot]) k ([] ++ claimed k)) := by
    refine .setPool (Heap.lt_size hx.limit_pos) fun log => ⟨log ++ [.growthFailed (c.heap.pool k).policy
      (c.heap.pool k).blockSize slot ((c.heap.pool k).giveBack slot).1], ?_⟩
    rw [holding_self]
    have hfail := Growths.Step.fail ⟨c.heap.pool k, slot :: claimed k, log⟩ (i := slot) List.mem_cons_self
    rw [Growths.fail, List.erase_cons_head] at hfail
    refine .of_step hfail fun i hnone => ?_
    dsimp only
    unfold Pool.giveBack
    split <;> exact hnone
  rw [update_holding, holding_nil] at hset
  rwa [heap_gaveBack]

/-- **An allocation leads the heap on**, however it ends. -/
theorem Ends.led {r : Except Failure Nat × Call ε} (h : Ends k c r) (hx : OnCourse P claimed k (c, [])) :
    Led P claimed c r.2 := by
  cases h with
  | block hpath => exact hpath.led hx
  | exhausted hpath => exact hpath.led hx
  | @refused n slot size e policy c' hpath =>
    obtain ⟨hx', hl⟩ := hpath.keeps hx
    have hback := hx'.gaveBack policy size
    rw [Leads, holding_nil] at hl
    refine ⟨hl.trans hback, ?_⟩
    rw [rest_gaveBack]
    exact P.step hx'.fair.good hx'.regular hback

/-- Mapping an oversized block is a path, and ends with the block or with an error. -/
theorem OnCourse.mapOversized_path (hx : OnCourse P claimed k (c, [])) (size : Nat) :
    Path k (c, []) ((c.mapOversized size).2, []) ∧
      ((∃ x, (c.mapOversized size).1 = .ok x) ∨ (∃ e, (c.mapOversized size).1 = .error (.error e))) := by
  rw [mapOversized]
  split
  · rename_i offset total _ _
    rcases hx.map_spec total with ⟨m, c', h1, h2, -⟩ | ⟨e, c', h1, h2⟩
    · rw [h1]
      exact ⟨(h2.tail (.answer c' [] _ id)).tail (.log _ [] rfl), .inl ⟨_, rfl⟩⟩
    · rw [h1]
      exact ⟨h2, .inr ⟨_, rfl⟩⟩
  · exact ⟨.refl, .inr ⟨_, rfl⟩⟩

/-- Unmapping an oversized block is a path. -/
theorem unmapOversized_path (c : Call ε) (address size : Nat) :
    Path k (c, []) ((c.unmapOversized address size).2, []) := by
  unfold unmapOversized
  split
  · exact .refl
  · split
    · split
      · exact (Relation.ReflTransGen.single (.log c [] rfl)).trans (unmap_path _ [] _)
      · exact .refl
    · exact .refl

/-- **Giving back** whatever somebody calls a block leads the heap on. -/
theorem deallocate_led (hgood : P.Good (c.heap, c.rest)) (hr : c.heap.Regular claimed) (k address : Nat) :
    Led P claimed c (c.deallocate k address).2 := by
  have hl : c.heap.Leads claimed (c.heap.setPool k ((c.heap.pool k).deallocate address).2) claimed :=
    .work (Pool.deallocate_work _ address) fun s hs => by
      rw [← hs]
      exact .deallocate s address
  rw [deallocate, onPool_eq]
  exact ⟨hl, P.step hgood hr hl⟩

end BlockHeap.Call
