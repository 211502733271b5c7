import BlockHeap.Proofs.Pool.Room
import BlockHeap.Proofs.Run.Calls
import Mathlib.Order.Defs.Unbundled

/-!
# Calls that nobody disturbs

An interlude is *idle* when it leaves the heap alone, and changes the rest by a preorder `R` only. When all interludes
of a call are idle, nothing but the call itself changes the pools, and one round decides an allocation from a pool
(`Call.Sound.allocate_undisturbed`). It takes a block from an existing arena; or all blocks are held, and then it
reports that the pool is exhausted if there are as many arenas as there may be, and takes a block from a new arena
otherwise, unless a mapping was refused, which leaves the pool as it was.
-/

namespace BlockHeap

/-- The interlude leaves the heap alone, and changes the rest by `R`. -/
def Interlude.Idle {ε : Type} (R : ε → ε → Prop) (f : Interlude ε) : Prop :=
  ∀ s, (f s).1 = s.1 ∧ R s.2 (f s).2

theorem Interlude.Idle.of_id {ε : Type} (R : ε → ε → Prop) [IsPreorder ε R] : Interlude.Idle R id :=
  fun s => ⟨rfl, refl s.2⟩

namespace Call

section Stages

variable {ε : Type} {R : ε → ε → Prop}

/-- All interludes to come are idle. -/
structure Undisturbed (R : ε → ε → Prop) (c : Call ε) : Prop where
  decisions : ∀ d ∈ c.decisions, Interlude.Idle R d.meanwhile
  growths : ∀ f ∈ c.growths, Interlude.Idle R f

/-- It was logged that a mapping was refused. -/
def Refused (c : Call ε) : Prop := ∃ size e, Event.mappingRefused size e ∈ c.events

/-- The call goes on undisturbed, and has changed no pool. -/
structure Calm (R : ε → ε → Prop) (c c' : Call ε) : Prop extends Undisturbed R c' where
  pools : c'.heap.pools = c.heap.pools
  rest : R c.rest c'.rest

variable {c c' d : Call ε}

/-- What concerns neither pools nor others is calm. -/
theorem Calm.aside (h : Calm R c c') (hpools : d.heap.pools = c'.heap.pools) (hrest : d.rest = c'.rest)
    (hdecisions : d.decisions = c'.decisions) (hgrowths : d.growths = c'.growths) : Calm R c d := by
  constructor
  · constructor
    · rw [hdecisions]
      exact h.decisions
    · rw [hgrowths]
      exact h.growths
  · exact hpools.trans h.pools
  · rw [hrest]
    exact h.rest

theorem Calm.pool (h : Calm R c c') (k : Nat) : c'.heap.pool k = c.heap.pool k := by
  rw [Heap.pool, Heap.pool, h.pools]

/-- Letting others work is calm when they are idle. -/
theorem Undisturbed.interlude (hc : c.Undisturbed R) {f : Interlude ε} (hf : Interlude.Idle R f) :
    Calm R c (c.interlude f) := by
  obtain ⟨hheap, hrest⟩ := hf (c.heap, c.rest)
  exact ⟨⟨hc.decisions, hc.growths⟩, congrArg Heap.pools hheap, hrest⟩

variable [IsPreorder ε R]

theorem Calm.trans (h : Calm R c c') (h' : Calm R c' d) : Calm R c d :=
  ⟨h'.toUndisturbed, h'.pools.trans h.pools, trans_of R h.rest h'.rest⟩

/-- Asking for a mapping is calm, and a refusal is logged. -/
theorem Undisturbed.map (hc : c.Undisturbed R) (size : Nat) : Calm R c (c.map size).2 ∧
    ∀ e, (c.map size).1 = .error e → (c.map size).2.Refused := by
  have hidle : Interlude.Idle R (c.decisions.headD .grant).meanwhile :=
    headD_of_forall (P := fun d : Decision ε => Interlude.Idle R d.meanwhile) (.of_id R) hc.decisions
  have hnext : ({ c with decisions := c.decisions.tail } : Call ε).Undisturbed R :=
    ⟨fun d hd => hc.decisions d (List.mem_of_mem_tail hd), hc.growths⟩
  have hcalm : Calm R c (({ c with decisions := c.decisions.tail } : Call ε).interlude
      (c.decisions.headD .grant).meanwhile) := Calm.trans ⟨hnext, rfl, refl _⟩ (hnext.interlude hidle)
  rw [Call.map]
  generalize ({ c with decisions := c.decisions.tail } : Call ε).interlude
    (c.decisions.headD .grant).meanwhile = c1 at hcalm ⊢
  cases hmap : (c1.heap.os.map size (c.decisions.headD .grant).refuse).1 with
  | ok m => exact ⟨hcalm.aside rfl rfl rfl rfl, fun _ he => by cases he⟩
  | error e => exact ⟨hcalm.aside rfl rfl rfl rfl, fun _ _ => ⟨size, e, by simp [log]⟩⟩

/-- Mapping the region of an arena is calm, and a refusal is logged. -/
theorem Undisturbed.mapArena (hc : c.Undisturbed R) (policy : Policy) (size : Nat) :
    Calm R c (c.mapArena policy size).2 ∧
      ∀ e, (c.mapArena policy size).1 = .error (.error e) → (c.mapArena policy size).2.Refused := by
  rw [Call.mapArena]
  split
  · exact ⟨⟨hc, rfl, refl _⟩, fun _ he => by cases he⟩
  · obtain ⟨h1, h2⟩ := hc.map Arena.regionBytes
    split
    · rename_i e c' hmap
      rw [hmap] at h1 h2
      exact ⟨h1, fun _ _ => h2 e rfl⟩
    · rename_i region c' hmap
      rw [hmap] at h1
      split
      · exact ⟨h1.aside rfl rfl rfl rfl, fun _ he => by cases he⟩
      · exact ⟨h1.aside rfl rfl rfl rfl, fun _ he => by cases he⟩

/-- Making an arena is calm, and a refusal is logged. -/
theorem Undisturbed.houseArena (hc : c.Undisturbed R) (policy : Policy) (size : Nat) :
    Calm R c (c.houseArena policy size).2 ∧
      ∀ e, (c.houseArena policy size).1 = .error (.error e) → (c.houseArena policy size).2.Refused := by
  obtain ⟨h1, h2⟩ := hc.mapArena policy size
  rw [Call.houseArena]
  cases hmap : c.mapArena policy size with
  | mk r c' =>
    rw [hmap] at h1 h2
    cases r with
    | error f =>
      refine ⟨h1, fun e he => h2 e ?_⟩
      injection he with he
      rw [he]
    | ok a =>
      obtain ⟨k1, k2⟩ := h1.toUndisturbed.map Arena.headerBytes
      cases hhouse : c'.map Arena.headerBytes with
      | mk r' d =>
        dsimp only at h1 k1 k2
        rw [hhouse] at k1 k2
        cases r' with
        | error e =>
          simp only [Call.house, hhouse]
          exact ⟨(h1.trans k1).aside rfl rfl rfl rfl, fun _ _ => k2 e rfl⟩
        | ok m =>
          simp only [Call.house, hhouse]
          exact ⟨h1.trans k1, fun _ he => by cases he⟩

/-- Letting others work after a growth is calm. -/
theorem Undisturbed.announceGrowth (hc : c.Undisturbed R) : Calm R c c.announceGrowth := by
  have hidle : Interlude.Idle R (c.growths.headD id) := headD_of_forall (.of_id R) hc.growths
  have hnext : ({ c with growths := c.growths.tail } : Call ε).Undisturbed R :=
    ⟨hc.decisions, fun f hf => hc.growths f (List.mem_of_mem_tail hf)⟩
  exact Calm.trans ⟨hnext, rfl, refl _⟩ (hnext.interlude hidle)

end Stages

end Call

/-- A fresh arena has a block. -/
theorem Pool.takeFrom_fresh {p : Pool} {i : Nat} {r : Resident Arena} {g : Arena.Geometry} (hi : p.slot? i = some r)
    (hr : r.value.Sound g) (hempty : r.value.taken = ∅) : ∃ x, (p.takeFrom i).1 = .ok (some x) := by
  rw [takeFrom_some hi]
  rcases hr.allocate_spec with ⟨j, a, h1, -⟩ | ⟨a, -, h2, -⟩
  · exact ⟨_, by rw [h1]⟩
  · have hpos := hr.fits.blockCount_pos
    rw [← hr.blockCount] at hpos
    rw [hempty] at h2
    have hmem : 0 ∈ (∅ : Finset Nat) := by
      rw [h2]
      exact Finset.mem_range.mpr hpos
    cases hmem

namespace Call

/-- What comes of an allocation from pool `k` that nobody disturbs. -/
inductive Decided (R : Ledger → Ledger → Prop) (c : Call Ledger) (k : Nat) :
    Except Failure Nat × Call Ledger → Prop where
  /-- A block of an existing arena. -/
  | found {x : Nat} {q : Pool}
    (take : (c.heap.pool k).takeExisting (c.heap.pool k).count = (.ok (some x), q)) (kept : (c.heap.pool k).Kept q) :
    Decided R c k (.ok x, { c with heap := c.heap.setPool k q })
  /-- No block, and as many arenas as there may be. -/
  | exhausted {q : Pool} {c' : Call Ledger} (full : (c.heap.pool k).held = (c.heap.pool k).grid)
    (limit : (c.heap.pool k).maxArenas ≤ (c.heap.pool k).count) (kept : (c.heap.pool k).Kept q)
    (rest : c'.rest = c.rest) (heap : c'.heap = c.heap.setPool k q) :
    Decided R c k (.error (.error (.poolExhausted (c.heap.pool k).blockSize (c.heap.pool k).count)), c')
  /-- A block of a new arena. -/
  | grown {x : Nat} {c' : Call Ledger} (full : (c.heap.pool k).held = (c.heap.pool k).grid)
    (limit : (c.heap.pool k).count < (c.heap.pool k).maxArenas) (rest : R c.rest c'.rest)
    (count : (c'.heap.pool k).count = (c.heap.pool k).count + 1)
    (holes : (c'.heap.pool k).holes = (c.heap.pool k).holes) : Decided R c k (.ok x, c')
  /-- No block, and a mapping for a new arena was refused. -/
  | refused {e : AllocError} {c' : Call Ledger} (full : (c.heap.pool k).held = (c.heap.pool k).grid)
    (limit : (c.heap.pool k).count < (c.heap.pool k).maxArenas) (logged : c'.Refused) (rest : R c.rest c'.rest)
    (kept : (c.heap.pool k).Kept (c'.heap.pool k)) : Decided R c k (.error (.error e), c')

namespace Sound

variable {R : Ledger → Ledger → Prop} [IsPreorder Ledger R] {src : Source} {h₀ : Heap} {claimed : Nat → List Nat}
  {pending : Multiset Mapping} {c : Call Ledger} {k bytes : Nat}

/-- Filling a slot when nobody disturbs: it holds a fresh arena then, or a refusal was logged and the slot is given
back. -/
theorem fillSlot_undisturbed {slot : Nat}
    (hc : c.Sound src h₀ (Function.update claimed k (slot :: claimed k)) pending) (ha : c.Undisturbed R) :
    (∃ r g c', c.fillSlot k slot = (.ok (), c') ∧ c'.Sound src h₀ claimed pending ∧ R c.rest c'.rest ∧
      c'.heap.pool k = (c.heap.pool k).publish slot r ∧ r.value.Sound g ∧ r.value.taken = ∅) ∨
    (∃ e c', c.fillSlot k slot = (.error (.error e), c') ∧ c'.Refused ∧ R c.rest c'.rest ∧
      c'.heap.pool k = ((c.heap.pool k).giveBack slot).2) := by
  have hpos : 0 < (c.heap.pool k).maxArenas := hc.heap.limit_pos_of_claimed (i := slot) (by simp)
  have hput : ∀ {d : Call Ledger} (p : Pool), d.heap.pool k = c.heap.pool k → (d.heap.setPool k p).pool k = p := by
    intro d p hd
    exact Heap.pool_setPool_self (Heap.lt_size (by rw [hd]; exact hpos)) _
  obtain ⟨g, hg⟩ : ∃ g, Arena.Geometry.ofBlockSize (c.heap.pool k).blockSize = .ok g :=
    (hc.heap.pools k).geometry hpos
  obtain ⟨h1, h2⟩ := ha.houseArena (c.heap.pool k).policy (c.heap.pool k).blockSize
  rcases hc.houseArena_spec (c.heap.pool k).policy hg with ⟨r, c1, k1, k2, k3, k4, -⟩ | ⟨e, c1, k1, -⟩
  · rw [k1] at h1
    have hsame : c1.heap.pool k = c.heap.pool k := h1.pool k
    let c2 : Call Ledger := (c1.modifyPool k (·.publish slot r)).log
      (.poolGrew (c.heap.pool k).policy (c.heap.pool k).blockSize slot)
    have hcalm : Calm R c2 c2.announceGrowth := Undisturbed.announceGrowth ⟨h1.decisions, h1.growths⟩
    refine .inl ⟨r, g, c2.announceGrowth, fillSlot_of_ok k1, ?_, ?_, ?_, k3, k4⟩
    · rcases hc.fillSlot_spec with ⟨d, l1, l2⟩ | ⟨e, d, l1, -⟩
      · rw [fillSlot_of_ok k1] at l1
        cases l1
        exact l2
      · rw [fillSlot_of_ok k1] at l1
        cases l1
    · exact trans_of R h1.rest hcalm.rest
    · rw [hcalm.pool k, ← hsame]
      exact (congrArg (Heap.pool · k) (congrArg (·.2.heap) (onPool_eq c1 k fun p => ((), p.publish slot r)))).trans
        (hput _ hsame)
  · rw [k1] at h1 h2
    have hsame : c1.heap.pool k = c.heap.pool k := h1.pool k
    obtain ⟨size, e', hevent⟩ := h2 e rfl
    refine .inr ⟨e, _, fillSlot_of_error k1, ⟨size, e', Array.mem_push_of_mem _ hevent⟩, h1.rest, ?_⟩
    rw [← hsame]
    exact (congrArg (Heap.pool · k) (congrArg (·.2.heap) (onPool_eq c1 k (·.giveBack slot)))).trans (hput _ hsame)

/-- A slot that was just filled has a block. -/
theorem take_filled {slot : Nat} {r : Resident Arena} {g : Arena.Geometry} (hk : k < c.heap.pools.size)
    (hslot : (c.heap.pool k).slot? slot = some r) (hr : r.value.Sound g) (hempty : r.value.taken = ∅) :
    ∃ x c', c.onPool k (·.takeFrom slot) = (.ok (some x), c') ∧ c'.rest = c.rest ∧
      (c.heap.pool k).Steady (c'.heap.pool k) := by
  obtain ⟨x, hx⟩ := Pool.takeFrom_fresh hslot hr hempty
  refine ⟨x, { c with heap := c.heap.setPool k ((c.heap.pool k).takeFrom slot).2 }, ?_, rfl, ?_⟩
  · rw [onPool_eq, hx]
  · rw [Heap.pool_setPool_self hk]
    exact (c.heap.pool k).takeFrom_steady slot

/-- A round that finds a block in an existing arena. -/
theorem round_of_some {x : Nat} {q : Pool}
    (h : (c.heap.pool k).takeExisting (c.heap.pool k).count = (.ok (some x), q)) :
    c.round k = (some (.ok x), { c with heap := c.heap.setPool k q }) := by
  refine round_of_found ?_
  rw [onPool_eq, h]

/-- A round that finds no block, with as many arenas as there may be. -/
theorem round_of_max {q : Pool} (h : (c.heap.pool k).takeExisting (c.heap.pool k).count = (.ok none, q))
    (hkept : (c.heap.pool k).Kept q) (hmax : (c.heap.pool k).maxArenas ≤ (c.heap.pool k).count) :
    ∃ c', c.round k = (some (.error (.error
        (.poolExhausted (c.heap.pool k).blockSize (c.heap.pool k).count))), c') ∧
      c'.rest = c.rest ∧ c'.heap = c.heap.setPool k q := by
  have halike := (Heap.Alike.setPool c.heap hkept.toAlike).pool k
  have hmax' : ((c.heap.setPool k q).pool k).maxArenas ≤ (c.heap.pool k).count := by
    rw [halike.maxArenas]
    exact hmax
  have htake : c.onPool k (·.takeExisting (c.heap.pool k).count) =
      (.ok none, { c with heap := c.heap.setPool k q }) := by
    rw [onPool_eq, h]
  have hround := round_of_full htake hmax'
  rw [halike.blockSize] at hround
  exact ⟨_, hround, rfl, rfl⟩

/-- A round that finds no block, when there may be more arenas and nobody disturbs: it takes one from a new arena, or
a refusal was logged and the pool is as before. -/
theorem round_of_lt (hc : c.Sound src h₀ claimed pending) (ha : c.Undisturbed R) {q : Pool}
    (h : (c.heap.pool k).takeExisting (c.heap.pool k).count = (.ok none, q)) (hkept : (c.heap.pool k).Kept q)
    (hq : q.Sound (claimed k)) (hheld : q.held = (c.heap.pool k).held)
    (hlt : (c.heap.pool k).count < (c.heap.pool k).maxArenas) :
    (∃ x c', c.round k = (some (.ok x), c') ∧ R c.rest c'.rest ∧
      (c'.heap.pool k).count = (c.heap.pool k).count + 1 ∧ (c'.heap.pool k).holes = (c.heap.pool k).holes) ∨
    (∃ e c', c.round k = (some (.error (.error e)), c') ∧ c'.Refused ∧ R c.rest c'.rest ∧ c'.heap.pool k = q) := by
  have hk : k < c.heap.pools.size := Heap.lt_size (Nat.zero_lt_of_lt hlt)
  have hlook : ∀ (d : Call Ledger) (p : Pool), d.heap.pools.size = c.heap.pools.size →
      (d.heap.setPool k p).pool k = p := by
    intro d p hsize
    rw [Heap.pool_setPool_self (by omega)]
  -- the slot after the last one is claimed
  let c1 : Call Ledger := { c with heap := c.heap.setPool k q }
  have hc1 : c1.Sound src h₀ claimed pending :=
    hc.withHeap (hc.heap.keep hq hkept hheld) (.setPool _ hkept.toAlike) c.events
  have hpool1 : c1.heap.pool k = q := hlook c q rfl
  have hsize1 : c1.heap.pools.size = c.heap.pools.size := Heap.size_setPool q
  let c2 : Call Ledger := { c1 with heap := c1.heap.setPool k { q with count := (c.heap.pool k).count + 1 } }
  have hclaim : c1.onPool k (·.claimSlot (c.heap.pool k).count) = (true, c2) := by
    rw [onPool_claimSlot (by rw [hpool1]; exact hkept.count), hpool1]
  have hpool2 : c2.heap.pool k = { q with count := (c.heap.pool k).count + 1 } := hlook c1 _ hsize1
  have hc2 : c2.Sound src h₀ (Function.update claimed k ((c.heap.pool k).count :: claimed k)) pending := by
    have hstep := hc1.heap.claim (k := k) (by rw [hpool1, hkept.count, hkept.maxArenas]; exact hlt)
    rw [hpool1, hkept.count] at hstep
    refine hc1.withHeap hstep (.setPool _ ?_) c1.events
    rw [hpool1]
    exact ⟨rfl, rfl, rfl⟩
  have hmax : ¬(c1.heap.pool k).maxArenas ≤ (c.heap.pool k).count := by
    rw [hpool1, hkept.maxArenas]
    omega
  have htake : c.onPool k (·.takeExisting (c.heap.pool k).count) = (.ok none, c1) := by
    rw [onPool_eq, h]
  -- and filled
  rcases hc2.fillSlot_undisturbed ⟨ha.decisions, ha.growths⟩ with
    ⟨r, g, c3, k1, k2, hrest, k3, k4, k5⟩ | ⟨e, c3, k1, k2, hrest, k3⟩
  · have hcap : (c.heap.pool k).count < Pool.capacity := Nat.lt_of_lt_of_le hlt (c.heap.pool k).maxArenas_le
    rw [hpool2] at k3
    have hslot : (c3.heap.pool k).slot? (c.heap.pool k).count = some r := by
      rw [k3]
      exact Pool.slot?_putSlot_self hcap _
    have hsize3 : k < c3.heap.pools.size :=
      Heap.lt_size (by rw [k3]; exact Nat.zero_lt_of_lt (hkept.maxArenas ▸ hlt))
    obtain ⟨x, c4, htake', hrest', hsteady⟩ := take_filled hsize3 hslot k4 k5
    refine .inl ⟨x, c4, round_of_grown htake hmax hclaim k1 htake', hrest' ▸ hrest, ?_, ?_⟩
    · rw [hsteady.count, k3]
      rfl
    · rw [hsteady.holes, k3]
      refine Pool.holes_grow rfl ?_ fun i hi => ?_
      · rw [← k3, hslot]
        rfl
      · have hne : i ≠ (c.heap.pool k).count := by omega
        exact (congrArg Option.isSome (Pool.slot?_putSlot_of_ne hne _)).trans (hkept.isSome_slot? i)
  · refine .inr ⟨e, c3, round_of_failed htake hmax hclaim k1, k2, hrest, ?_⟩
    rw [k3, hpool2, Pool.giveBack, if_pos rfl, ← hkept.count]

/-- **An allocation that nobody disturbs** takes a block from an existing arena; or else all blocks are held, and it
finds the pool exhausted, or takes a block from a new arena, or a refusal was logged. -/
theorem allocate_undisturbed (hc : c.Sound src h₀ claimed pending) (ha : c.Undisturbed R) (k : Nat) :
    c.Decided R k (c.allocate k) := by
  have hrounds : ∀ {r c'}, c.round k = (some r, c') → c.allocate k = (r, c') := by
    intro r c' h
    rw [Call.allocate, roundLimit, Call.rounds, h]
  have htook := (hc.heap.pools k).takeExisting_took (c.heap.pool k).count
  have hfull := (hc.heap.pools k).held_eq_grid_of_takeExisting (Nat.le_refl (c.heap.pool k).count)
  generalize htake : (c.heap.pool k).takeExisting (c.heap.pool k).count = r at htook hfull
  cases htook with
  | block hsound hkept hheld =>
    rw [hrounds (round_of_some htake)]
    exact .found htake hkept
  | nothing hsound hkept hheld =>
    rcases Nat.lt_or_ge (c.heap.pool k).count (c.heap.pool k).maxArenas with hlt | hge
    · rcases hc.round_of_lt ha htake hkept hsound hheld hlt with ⟨x, c', h1, h2, h3, h4⟩ | ⟨e, c', h1, h2, h3, h4⟩
      · rw [hrounds h1]
        exact .grown (hfull rfl) hlt h2 h3 h4
      · rw [hrounds h1]
        exact .refused (hfull rfl) hlt h2 h3 (h4 ▸ hkept)
    · obtain ⟨c', h1, h2, h3⟩ := round_of_max htake hkept hge
      rw [hrounds h1]
      exact .exhausted (hfull rfl) hge hkept h2 h3

end Sound

end Call

end BlockHeap
