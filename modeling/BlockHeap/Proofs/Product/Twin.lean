import BlockHeap.Proofs.Product.Told
import BlockHeap.Proofs.Run.Journal

/-!
# A pool and its twin

The *twin* of pool `k` is a pool that is alone in a heap of its own, on an operating system that was told its answers.
A chronicle is followed by that of the twin (`Twin`) when the pools are the same, the blocks in use from pool `k` are
those in use from the twin, and what a watcher of pool `k` sees in the one journal (`Journal.seen`) is what a watcher
of the twin sees in the other. What is done to other pools concerns none of this (`Twin.aside`, `Twin.note_of_ne`),
and what is done to pool `k` can be done to the twin as well.

`Follows` says that there are operations on the twin that keep up with what happens to a chronicle.
-/

namespace BlockHeap

/-! ## What concerns one pool -/

/-- The blocks from pool `k`, as blocks from a pool with the number 0. -/
def blocksOf (k : Nat) (live : List Block) : List Block :=
  (live.filter (·.pool = some k)).map fun b => { b with pool := some 0 }

/-- What a watcher of pool `k` sees: what happens to the pool, and the pool then. -/
def Journal.seen (j : Journal) (k : Nat) : List (Act × Pool) :=
  (j.entries.filter (·.pool = some k)).map fun e => (e.act, e.heap.pool k)

/-- For those who see only pool `k` of the one chronicle, and the pool with the number 0 of the other, both are the
same. -/
structure Chronicle.Agree (k : Nat) (s t : Chronicle) : Prop where
  pool : t.1.pool 0 = s.1.pool k
  live : t.2.live = blocksOf k s.2.live
  seen : t.2.seen 0 = s.2.seen k

variable {k : Nat}

theorem blocksOf_append (k : Nat) (live live' : List Block) :
    blocksOf k (live ++ live') = blocksOf k live ++ blocksOf k live' := by
  rw [blocksOf, List.filter_append, List.map_append]
  rfl

theorem blocksOf_single {b : Block} (h : b.pool = some k) : blocksOf k [b] = [{ b with pool := some 0 }] := by
  simp [blocksOf, h]

theorem blocksOf_single_of_ne {b : Block} (h : b.pool ≠ some k) : blocksOf k [b] = [] := by
  simp [blocksOf, h]

/-- The blocks before and after block number `i`. -/
theorem split_at {α : Type} {l : List α} {i : Nat} {x : α} (h : l[i]? = some x) :
    ∃ l₁ l₂, l = l₁ ++ [x] ++ l₂ ∧ l.eraseIdx i = l₁ ++ l₂ := by
  obtain ⟨hi, rfl⟩ := List.getElem?_eq_some_iff.mp h
  refine ⟨l.take i, l.drop (i + 1), ?_, List.eraseIdx_eq_take_drop_succ l i⟩
  rw [List.append_assoc, List.singleton_append, ← List.drop_eq_getElem_cons hi, List.take_append_drop]

/-- A block from the pool has its number among those from the pool. -/
theorem blocksOf_eraseIdx {live : List Block} {i : Nat} {b : Block} (hi : live[i]? = some b) (hb : b.pool = some k) :
    ∃ j, (blocksOf k live)[j]? = some { b with pool := some 0 } ∧
      (blocksOf k live).eraseIdx j = blocksOf k (live.eraseIdx i) := by
  obtain ⟨l₁, l₂, hlive, herase⟩ := split_at hi
  refine ⟨(blocksOf k l₁).length, ?_, ?_⟩
  · rw [hlive, blocksOf_append, blocksOf_append, blocksOf_single hb, List.append_assoc,
      List.getElem?_append_right (Nat.le_refl _), Nat.sub_self]
    rfl
  · rw [herase, hlive, blocksOf_append, blocksOf_append, blocksOf_append, blocksOf_single hb, List.append_assoc,
      List.eraseIdx_append_of_length_le (Nat.le_refl _), Nat.sub_self]
    rfl

/-- A block from elsewhere is not among those from the pool. -/
theorem blocksOf_eraseIdx_of_ne {live : List Block} {i : Nat} {b : Block} (hi : live[i]? = some b)
    (hb : b.pool ≠ some k) : blocksOf k (live.eraseIdx i) = blocksOf k live := by
  obtain ⟨l₁, l₂, hlive, herase⟩ := split_at hi
  rw [herase, hlive, blocksOf_append, blocksOf_append, blocksOf_append, blocksOf_single_of_ne hb, List.append_nil]

/-! ## Twins -/

/-- The second chronicle is that of the twin of pool `k`, with the mappings `own` in the hands of calls in progress, on
an operating system that was told `script`, of which the `rest` is left. -/
structure Twin (k : Nat) (script : List (Option Nat)) (own : Multiset Mapping) (s t : Chronicle)
    (rest : List (Option Nat)) : Prop where
  pool : t.1.pool 0 = s.1.pool k
  size : t.1.pools.size = 1
  place : t.1.os.place = toldPlacement script
  script : script.drop t.1.os.space.requests = rest
  mapped : (t.1.os.space.live : Multiset Mapping) = (s.1.pool k).mappings + own
  live : t.2.live = blocksOf k s.2.live
  seen : t.2.seen 0 = s.2.seen k

namespace Twin

variable {script rest : List (Option Nat)} {own own' : Multiset Mapping} {s t : Chronicle} {act : Act}

theorem agree (h : Twin k script own s t rest) : s.Agree k t := ⟨h.pool, h.live, h.seen⟩

/-- At the start, when the pool has no arenas. -/
theorem start {h : Heap} (hk : (h.pool k).mappings = 0) (script : List (Option Nat)) :
    Twin k script 0 (Chronicle.start h) (Chronicle.start ((Heap.onOs (.told script)).addPools [h.pool k])) script :=
  ⟨rfl, rfl, rfl, rfl, by rw [Chronicle.start, Chronicle.start, hk]; rfl, rfl, rfl⟩

/-- What is done elsewhere. -/
theorem aside (h : Twin k script own s t rest) {h' : Heap} (hpool : h'.pool k = s.1.pool k) :
    Twin k script own (h', s.2) t rest :=
  ⟨h.pool.trans hpool.symm, h.size, h.place, h.script, h.mapped.trans (by rw [hpool]), h.live, h.seen⟩

/-- An entry about the pool. -/
theorem note (h : Twin k script own s t rest) (act : Act) :
    Twin k script own (s.note (some k) act) (t.note (some 0) act) rest := by
  refine ⟨h.pool, h.size, h.place, h.script, h.mapped, h.live, ?_⟩
  have hseen := h.seen
  simp only [Journal.seen] at hseen
  simp [Journal.seen, Chronicle.note, hseen, h.pool]

/-- An entry about something else. -/
theorem note_of_ne (h : Twin k script own s t rest) {pool : Option Nat} (hpool : pool ≠ some k) (act : Act) :
    Twin k script own (s.note pool act) t rest := by
  refine ⟨h.pool, h.size, h.place, h.script, h.mapped, h.live, ?_⟩
  rw [h.seen]
  simp [Journal.seen, Chronicle.note, hpool]

/-- A block from the pool comes into use. -/
theorem enter (h : Twin k script own s t rest) (x bytes : Nat) :
    Twin k script own (s.enter ⟨some k, x, bytes⟩) (t.enter ⟨some 0, x, bytes⟩) rest := by
  refine ⟨h.pool, h.size, h.place, h.script, h.mapped, ?_, h.seen⟩
  rw [Chronicle.enter, Chronicle.enter, h.live, blocksOf_append, blocksOf_single rfl]

/-- A block from elsewhere comes into use. -/
theorem enter_of_ne (h : Twin k script own s t rest) {b : Block} (hb : b.pool ≠ some k) :
    Twin k script own (s.enter b) t rest := by
  refine ⟨h.pool, h.size, h.place, h.script, h.mapped, ?_, h.seen⟩
  rw [Chronicle.enter, blocksOf_append, blocksOf_single_of_ne hb, List.append_nil, h.live]

/-- A block from the pool is no longer in use. -/
theorem strike (h : Twin k script own s t rest) {i j : Nat}
    (hj : (blocksOf k s.2.live).eraseIdx j = blocksOf k (s.2.live.eraseIdx i)) :
    Twin k script own (s.strike i) (t.strike j) rest := by
  refine ⟨h.pool, h.size, h.place, h.script, h.mapped, ?_, h.seen⟩
  rw [Chronicle.strike, Chronicle.strike, h.live, hj]

/-- A block from elsewhere is no longer in use. -/
theorem strike_of_ne (h : Twin k script own s t rest) {i : Nat} {b : Block} (hi : s.2.live[i]? = some b)
    (hb : b.pool ≠ some k) : Twin k script own (s.strike i) t rest := by
  refine ⟨h.pool, h.size, h.place, h.script, h.mapped, ?_, h.seen⟩
  rw [Chronicle.strike, blocksOf_eraseIdx_of_ne hi hb, h.live]

/-- The pool changes, and with it the mappings that are in the hands of calls in progress. -/
theorem setPool (h : Twin k script own s t rest) (hk : k < s.1.pools.size) {q : Pool}
    (hmap : q.mappings + own' = (s.1.pool k).mappings + own) :
    Twin k script own' (s.1.setPool k q, s.2) (t.1.setPool 0 q, t.2) rest := by
  have hput : (s.1.setPool k q).pool k = q := Heap.pool_setPool_self hk q
  refine ⟨?_, ?_, h.place, h.script, ?_, h.live, h.seen⟩
  · rw [hput]
    exact Heap.pool_setPool_self (by rw [h.size]; exact Nat.one_pos) q
  · exact (Heap.size_setPool q).trans h.size
  · rw [hput, hmap]
    exact h.mapped

/-- **Asking for a mapping**: the twin is told the same answer. -/
theorem map {size : Nat} {refuse : Bool} {x : Except OsError Mapping} {os : Os}
    (h : Twin k script own s t (Os.outcome x :: rest)) (hos : s.1.os.Sound)
    (hle : (s.1.pool k).mappings + own ≤ s.1.os.space.live) (hsize : size ≠ 0)
    (hmap : s.1.os.map size refuse = (x, os)) :
    ∃ os', t.1.os.map size false = (x, os') ∧
      Twin k script (inHand ({·}) own x) ({ s.1 with os }, s.2) ({ t.1 with os := os' }, t.2) rest := by
  have htold := hos.map_told hsize refuse h.place (h.script.trans (by rw [hmap])) (h.mapped ▸ hle)
  rw [hmap] at htold
  obtain ⟨h1, h2, h3, h4⟩ := htold
  refine ⟨(t.1.os.map size false).2, Prod.ext h1 rfl, h.pool, h.size, h2, h3, ?_, h.live, h.seen⟩
  rw [h4, h.mapped]
  cases x with
  | ok m => exact add_left_comm _ _ _
  | error e => rfl

/-- **Giving a mapping back** that is in the hands of a call. -/
theorem unmap {m : Mapping} (h : Twin k script (m ::ₘ own) s t rest) :
    Twin k script own (s.1.unmap m, s.2) (t.1.unmap m, t.2) rest := by
  have hmem : m ∈ t.1.os.space.live := by
    rw [← Multiset.mem_coe, h.mapped]
    exact Multiset.mem_add.mpr (.inr (Multiset.mem_cons_self m own))
  have hos : t.1.os.unmap m = { t.1.os with space := { t.1.os.space with live := t.1.os.space.live.erase m } } :=
    if_pos hmem
  refine ⟨h.pool, h.size, ?_, ?_, ?_, h.live, h.seen⟩
  · rw [Heap.unmap, hos]
    exact h.place
  · rw [Heap.unmap, hos]
    exact h.script
  · rw [Heap.unmap, hos, ← Multiset.coe_erase, h.mapped, Multiset.add_cons, Multiset.erase_cons_head]
    rfl

end Twin

/-! ## Following -/

theorem traceAll_append (src : Source) (ops ops' : List Op) : ∀ s : Chronicle,
    traceAll src (ops ++ ops') s = traceAll src ops' (traceAll src ops s) := by
  induction ops with
  | nil =>
    intro s
    rw [List.nil_append, traceAll]
  | cons op ops ih =>
    intro s
    rw [List.cons_append, traceAll, ih, traceAll]

/-- Some operations on the twin keep up with what has happened from one chronicle to another. -/
def Follows (k : Nat) (own : Multiset Mapping) (s s' : Chronicle) : Prop :=
  ∃ (ops : List Op) (seg : List (Option Nat)), ∀ script t rest, Twin k script own s t (seg ++ rest) →
    Twin k script own s' (traceAll (.pool 0) ops t) rest

namespace Follows

variable {own : Multiset Mapping} {s s' s'' : Chronicle}

/-- Nothing has to be done when nothing concerns the twin. -/
theorem of_twin (h : ∀ script t rest, Twin k script own s t rest → Twin k script own s' t rest) :
    Follows k own s s' := by
  refine ⟨[], [], fun script t rest ht => ?_⟩
  rw [traceAll]
  exact h script t rest ht

theorem refl (s : Chronicle) : Follows k own s s := of_twin fun _ _ _ ht => ht

theorem trans (h : Follows k own s s') (h' : Follows k own s' s'') : Follows k own s s'' := by
  obtain ⟨ops, seg, h⟩ := h
  obtain ⟨ops', seg', h'⟩ := h'
  refine ⟨ops ++ ops', seg ++ seg', fun script t rest ht => ?_⟩
  rw [traceAll_append]
  rw [List.append_assoc] at ht
  exact h' script _ rest (h script t _ ht)

/-- What is done elsewhere. -/
theorem aside (h : Follows k own s s') {h' : Heap} (hpool : h'.pool k = s'.1.pool k) : Follows k own s (h', s'.2) :=
  h.trans (of_twin fun _ _ _ ht => ht.aside hpool)

end Follows

end BlockHeap
