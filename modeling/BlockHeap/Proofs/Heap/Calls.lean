import BlockHeap.Proofs.Pool.Growth

/-!
# What calls keep

While a call is in progress others change the heap and whatever else they work on. `Terms` say what is known all the
time nevertheless: which blocks are in use, whose mappings are in place, and which pools stay because they are busy.
They are kept by every *proper* step of a call, one that leaves the settings of pools alone, puts the data of arenas
into mappings of the right size and releases nothing that is not in place, if it changes no pools but those that are
busy (`Heap.Spares`). So a call among others who keep the terms keeps them itself (`Call.Keeps`):

- when it asks for mappings, and makes an arena (`Keeps.map_spec`, `Keeps.houseArena_spec`);
- when it fills a claimed slot, or gives it back (`Keeps.fillSlot_spec`);
- when it allocates from a pool (`Keeps.allocate`) or a mapping (`Keeps.mapOversized`): it ends with one more block in
  use, or changes nothing (`Call.Ended`).
-/

namespace BlockHeap

/-- What holds of the default and of all entries of a list holds of its first entry. -/
theorem headD_of_forall {α : Type} {P : α → Prop} {d : α} {l : List α} (hd : P d) (hl : ∀ x ∈ l, P x) :
    P (l.headD d) := by
  cases l with
  | nil => exact hd
  | cons x l => exact hl x List.mem_cons_self

/-! ## Proper steps -/

namespace Heap

variable {h h' : Heap} {k : Nat} {q : Pool}

/-- The number of bytes of the mapping in which an arena's data lie. -/
def headerLen : Nat := Size.roundUp Arena.headerBytes pageSize

/-- The data of each arena lie in a mapping of their size. -/
def Housed (h : Heap) : Prop := ∀ k, ∀ m ∈ (h.pool k).headers, m.len = headerLen

/-- Pools keep their settings, arenas have their data in mappings of the right size, and what is released is in
place. -/
structure Proper (h h' : Heap) : Prop extends Alike h h' where
  stray : h'.os.space.stray = h.os.space.stray
  housed : h.Housed → h'.Housed

theorem Proper.refl (h : Heap) : h.Proper h := ⟨.refl h, rfl, id⟩

/-- A step that changes no pool. -/
theorem Proper.of_pools (hpools : h'.pools = h.pools) (hstray : h'.os.space.stray = h.os.space.stray) :
    h.Proper h' := by
  refine ⟨.of_pools hpools, hstray, fun hh k => ?_⟩
  rw [Heap.pool, hpools]
  exact hh k

/-- A step that changes one pool. -/
theorem Proper.setPool (halike : (h.pool k).Alike q)
    (hq : ∀ m ∈ q.headers, m ∈ (h.pool k).headers ∨ m.len = headerLen) : h.Proper (h.setPool k q) := by
  refine ⟨.setPool h halike, rfl, fun hh j m hm => ?_⟩
  rcases Nat.lt_or_ge k h.pools.size with hk | hk
  · rw [pool_setPool hk] at hm
    split at hm
    · exact (hq m hm).elim (hh k m) id
    · exact hh j m hm
  · rw [setPool_of_le hk] at hm
    exact hh j m hm

/-- Work in existing arenas. -/
theorem Proper.keep (hq : (h.pool k).Kept q) : h.Proper (h.setPool k q) := by
  refine .setPool hq.toAlike fun m hm => .inl ?_
  rw [← hq.headers]
  exact hm

/-- Giving a mapping back that is in place. -/
theorem Proper.unmap {m : Mapping} (hm : m ∈ h.os.space.live) : h.Proper (h.unmap m) :=
  .of_pools rfl (Os.unmap_stray hm)

end Heap

/-- What nobody works on is as it was: these pools, and the slots claimed in them. -/
structure Heap.Spares (busy : Nat → Prop) (h h' : Heap) (claimed claimed' : Nat → List Nat) : Prop where
  pool : ∀ k, ¬busy k → h'.pool k = h.pool k
  claimed : ∀ k, ¬busy k → claimed' k = claimed k

/-- A step that changes no pool. -/
theorem Heap.Spares.of_pools {busy : Nat → Prop} {h h' : Heap} {claimed : Nat → List Nat}
    (hpools : h'.pools = h.pools) : h.Spares busy h' claimed claimed := by
  refine ⟨fun k _ => ?_, fun _ _ => rfl⟩
  rw [Heap.pool, Heap.pool, hpools]

/-- A step that changes one pool, which somebody works on. -/
theorem Heap.Spares.setPool {busy : Nat → Prop} {h : Heap} {k : Nat} {claimed claimed' : Nat → List Nat} (hk : busy k)
    (q : Pool) (hclaimed : ∀ j, j ≠ k → claimed' j = claimed j) :
    h.Spares busy (h.setPool k q) claimed claimed' := by
  have hne : ∀ j, ¬busy j → j ≠ k := fun j hj e => hj (e ▸ hk)
  exact ⟨fun j hj => pool_setPool_of_ne (hne j hj) q, fun j hj => hclaimed j (hne j hj)⟩

/-! ## Terms -/

/-- What is known about a heap, and about what else is worked on, whatever calls are in progress. -/
structure Terms (ε : Type) where
  /-- All is in order, with some slots claimed and some mappings pending. -/
  Good : Heap × ε → (Nat → List Nat) → Multiset Mapping → Prop
  /-- The blocks in use. -/
  blocks : ε → Multiset Block
  /-- The mappings that are neither of pools nor of blocks nor of calls in progress. -/
  others : ε → Multiset Mapping
  /-- The pools that calls work on, which nobody takes away. -/
  Busy : Nat → Prop
  heap : ∀ {s claimed pending}, Good s claimed pending → s.1.Sound (blocks s.2) claimed (pending + others s.2)
  settings : ∀ {s t claimed claimed' pending pending' k}, Busy k → Good s claimed pending →
    Good t claimed' pending' → (s.1.pool k).Alike (t.1.pool k)
  step : ∀ {h h' e claimed claimed' pending pending'}, Good (h, e) claimed pending →
    h'.Sound (blocks e) claimed' (pending' + others e) → h.Proper h' → h.Spares Busy h' claimed claimed' →
    Good (h', e) claimed' pending'

variable {ε : Type} {W : Terms ε} {claimed claimed' : Nat → List Nat} {pending pending' : Multiset Mapping}

/-- The interlude keeps the terms. -/
def Terms.Orderly (W : Terms ε) (f : Interlude ε) : Prop :=
  ∀ (s : Heap × ε) (claimed : Nat → List Nat) (pending : Multiset Mapping), W.Good s claimed pending →
    W.Good (f s) claimed pending

theorem Terms.orderly_id : W.Orderly id := fun _ _ _ h => h

namespace Call

/-- The terms hold, and the interludes to come keep them. -/
structure Keeps (W : Terms ε) (c : Call ε) (claimed : Nat → List Nat) (pending : Multiset Mapping) : Prop where
  good : W.Good (c.heap, c.rest) claimed pending
  decisions : ∀ d ∈ c.decisions, W.Orderly d.meanwhile
  growths : ∀ f ∈ c.growths, W.Orderly f

/-- How an allocation ends: with one more block in use, after the terms held for the last time, or else with the terms
holding. -/
inductive Ended (W : Terms ε) (pool : Option Nat) (bytes : Nat) (claimed : Nat → List Nat)
    (pending : Multiset Mapping) : Except Failure Nat × Call ε → Prop where
  | block {x : Nat} {c : Call ε} {h : Heap} {before : Multiset Mapping} (hgood : W.Good (h, c.rest) claimed before)
    (hproper : h.Proper c.heap) (hspared : h.Spares W.Busy c.heap claimed claimed)
    (hsound : c.heap.Sound (⟨pool, x, bytes⟩ ::ₘ W.blocks c.rest) claimed (pending + W.others c.rest)) :
    Ended W pool bytes claimed pending (.ok x, c)
  | nothing {e : AllocError} {c : Call ε} (hgood : W.Good (c.heap, c.rest) claimed pending) :
    Ended W pool bytes claimed pending (.error (.error e), c)
  | stalled {c : Call ε} (hgood : W.Good (c.heap, c.rest) claimed pending) :
    Ended W pool bytes claimed pending (.error .stalled, c)

variable {c : Call ε} {k bytes : Nat}

/-- What is logged when a request for a mapping is answered. -/
def refusals (size : Nat) : Except OsError Mapping → Array Event
  | .ok _ => #[]
  | .error e => #[.mappingRefused size e]

/-- What a request for a mapping comes to, when others have worked and the operating system has answered. -/
theorem map_of_answer {s : Heap × ε} {size : Nat} {x : Except OsError Mapping} {os : Os}
    (hs : (c.decisions.headD .grant).meanwhile (c.heap, c.rest) = s)
    (hos : s.1.os.map size (c.decisions.headD .grant).refuse = (x, os)) :
    c.map size = (x.mapError (.map size),
      ⟨{ s.1 with os }, s.2, c.decisions.tail, c.growths, c.events ++ refusals size x⟩) := by
  subst hs
  rw [Call.map]
  cases x with
  | ok m => simp only [Call.interlude, hos, refusals, Array.append_empty, Except.mapError]
  | error e => simp only [Call.interlude, hos, refusals, Call.log, Array.push_eq_append, Except.mapError]

namespace Keeps

theorem heap (hc : c.Keeps W claimed pending) :
    c.heap.Sound (W.blocks c.rest) claimed (pending + W.others c.rest) := W.heap hc.good

/-- A step that changes the heap alone, and may log. -/
theorem withHeap (hc : c.Keeps W claimed pending) {h : Heap}
    (hh : h.Sound (W.blocks c.rest) claimed' (pending' + W.others c.rest)) (hp : c.heap.Proper h)
    (hspared : c.heap.Spares W.Busy h claimed claimed') (events : Array Event) :
    Keeps W { c with heap := h, events } claimed' pending' :=
  ⟨W.step hc.good hh hp hspared, hc.decisions, hc.growths⟩

/-! ## Mappings -/

/-- **Asking for a mapping.** -/
theorem map_spec (hc : c.Keeps W claimed pending) (size : Nat) :
    (∃ m c', c.map size = (.ok m, c') ∧ c'.Keeps W claimed (m ::ₘ pending) ∧ m.len = Size.roundUp size pageSize) ∨
    (∃ e c', c.map size = (.error e, c') ∧ c'.Keeps W claimed pending) := by
  have horderly : W.Orderly (c.decisions.headD .grant).meanwhile :=
    headD_of_forall (P := fun d : Decision ε => W.Orderly d.meanwhile) Terms.orderly_id hc.decisions
  have hgood := horderly _ claimed pending hc.good
  generalize hs : (c.decisions.headD .grant).meanwhile (c.heap, c.rest) = s at hgood
  have hasked : Keeps W ⟨s.1, s.2, c.decisions.tail, c.growths, c.events⟩ claimed pending :=
    ⟨hgood, fun d hd => hc.decisions d (List.mem_of_mem_tail hd), hc.growths⟩
  have hstray := Os.map_stray s.1.os size (c.decisions.headD .grant).refuse
  rcases (W.heap hgood).map_spec size (c.decisions.headD .grant).refuse with ⟨m, os, h1, h2, h3⟩ | ⟨e, os, h1, h2⟩
  · rw [← Multiset.cons_add] at h3
    rw [h1] at hstray
    exact .inl ⟨m, _, map_of_answer hs h1, hasked.withHeap h3 (.of_pools rfl hstray) (.of_pools rfl) _, h2⟩
  · rw [h1] at hstray
    exact .inr ⟨_, _, map_of_answer hs h1, hasked.withHeap h2 (.of_pools rfl hstray) (.of_pools rfl) _⟩

/-- Giving a mapping back. -/
theorem unmap {m : Mapping} (hc : c.Keeps W claimed (m ::ₘ pending)) : (c.unmap m).Keeps W claimed pending := by
  have hheap := hc.heap
  rw [Multiset.cons_add] at hheap
  exact hc.withHeap hheap.unmap (.unmap (hheap.pending_mem (Multiset.mem_cons_self _ _))) (.of_pools rfl) _

/-- Mapping the region of an arena. -/
theorem mapArena_spec (hc : c.Keeps W claimed pending) (policy : Policy) {size : Nat} {g : Arena.Geometry}
    (hg : Arena.Geometry.ofBlockSize size = .ok g) :
    (∃ a c', c.mapArena policy size = (.ok a, c') ∧ c'.Keeps W claimed (a.region ::ₘ pending) ∧ a.Sound g ∧
      a.taken = ∅ ∧ a.blockSize = size) ∨
    (∃ e c', c.mapArena policy size = (.error (.error e), c') ∧ c'.Keeps W claimed pending) := by
  rcases hc.map_spec Arena.regionBytes with ⟨m, c', h1, h2, h3⟩ | ⟨e, c', h1, h2⟩
  · have hheap := h2.heap
    rw [Multiset.cons_add] at hheap
    have hfits := hheap.fits_pending (Multiset.mem_cons_self _ _)
    obtain ⟨a, k1, k2, k3, -, k4, k5⟩ := Arena.create_spec policy m hg h3 hfits.stop_le
    refine .inl ⟨a, c'.log (.arenaMapped policy g.blockSize g.blockCount g.usable), ?_, ?_, k2, k3, k4⟩
    · rw [Call.mapArena, hg]
      simp only [h1, k1]
    · rw [k5]
      exact ⟨h2.good, h2.decisions, h2.growths⟩
  · refine .inr ⟨e, c', ?_, h2⟩
    rw [Call.mapArena, hg]
    simp only [h1]

/-- **Making an arena**: its mappings are pending, or nothing is. -/
theorem houseArena_spec (hc : c.Keeps W claimed pending) (policy : Policy) {size : Nat} {g : Arena.Geometry}
    (hg : Arena.Geometry.ofBlockSize size = .ok g) :
    (∃ r c', c.houseArena policy size = (.ok r, c') ∧ c'.Keeps W claimed (r.mappings + pending) ∧
      r.value.Sound g ∧ r.value.taken = ∅ ∧ r.value.blockSize = size ∧ r.mapping.len = Heap.headerLen) ∨
    (∃ e c', c.houseArena policy size = (.error (.error e), c') ∧ c'.Keeps W claimed pending) := by
  rcases hc.mapArena_spec policy hg with ⟨a, c1, h1, h2, h3, h4, h5⟩ | ⟨e, c1, h1, h2⟩
  · rcases h2.map_spec Arena.headerBytes with ⟨m, c2, k1, k2, k3⟩ | ⟨e, c2, k1, k2⟩
    · refine .inl ⟨⟨a, m⟩, c2, ?_, ?_, h3, h4, h5, k3⟩
      · rw [Call.houseArena, h1]
        simp only [Call.house, k1]
      · rw [Resident.mappings, Multiset.cons_add, Multiset.singleton_add, Multiset.cons_swap]
        exact k2
    · refine .inr ⟨e, c2.unmap a.region, ?_, k2.unmap⟩
      rw [Call.houseArena, h1]
      simp only [Call.house, k1]
  · refine .inr ⟨e, c1, ?_, h2⟩
    rw [Call.houseArena, h1]

/-! ## Growth -/

/-- Letting others work after a growth. -/
theorem announceGrowth (hc : c.Keeps W claimed pending) : c.announceGrowth.Keeps W claimed pending := by
  have horderly : W.Orderly (c.growths.headD id) := headD_of_forall Terms.orderly_id hc.growths
  exact ⟨horderly _ claimed pending hc.good, hc.decisions, fun f hf => hc.growths f (List.mem_of_mem_tail hf)⟩

/-- The next slot of a pool is claimed. -/
theorem claim (hk : W.Busy k) (hc : c.Keeps W claimed pending)
    (hlt : (c.heap.pool k).count < (c.heap.pool k).maxArenas) :
    Keeps W { c with heap := c.heap.setPool k { c.heap.pool k with count := (c.heap.pool k).count + 1 } }
      (Function.update claimed k ((c.heap.pool k).count :: claimed k)) pending :=
  hc.withHeap (hc.heap.claim hlt) (.setPool ⟨rfl, rfl, rfl⟩ fun _ hm => .inl hm)
    (.setPool hk _ fun _ hj => Function.update_of_ne hj _ _) c.events

/-- An arena is put into a claimed slot. -/
theorem publish {slot : Nat} {r : Resident Arena} {g : Arena.Geometry} (hk : W.Busy k)
    (hc : c.Keeps W (Function.update claimed k (slot :: claimed k)) (r.mappings + pending)) (hr : r.value.Sound g)
    (hsize : r.value.blockSize = (c.heap.pool k).blockSize) (hempty : r.value.taken = ∅)
    (hlen : r.mapping.len = Heap.headerLen) (e : Event) :
    Keeps W ((c.modifyPool k (·.publish slot r)).log e) claimed pending := by
  have hheap := hc.heap
  rw [add_assoc] at hheap
  rw [Call.modifyPool, onPool_eq]
  refine hc.withHeap (hheap.publish hr hsize hempty) (.setPool ⟨rfl, rfl, rfl⟩ fun m hm => ?_)
    (.setPool hk _ fun _ hj => (Function.update_of_ne hj _ _).symm) _
  rw [Pool.headers, (hheap.pools k).arenas_publish (by simp), Multiset.map_cons] at hm
  rcases Multiset.mem_cons.mp hm with rfl | hm
  · exact .inr hlen
  · exact .inl hm

/-- A claimed slot is given back, or given up. -/
theorem giveBack {slot : Nat} (hk : W.Busy k)
    (hc : c.Keeps W (Function.update claimed k (slot :: claimed k)) pending) (e : Event) :
    Keeps W ((c.onPool k (·.giveBack slot)).2.log e) claimed pending := by
  rw [onPool_eq]
  refine hc.withHeap hc.heap.giveBack (.setPool (Pool.giveBack_alike _ slot) fun m hm => .inl ?_)
    (.setPool hk _ fun _ hj => (Function.update_of_ne hj _ _).symm) _
  rwa [Pool.headers, Pool.arenas_giveBack] at hm

/-- **A claimed slot** is filled, or given back. -/
theorem fillSlot_spec {slot : Nat} (hk : W.Busy k)
    (hc : c.Keeps W (Function.update claimed k (slot :: claimed k)) pending) :
    (∃ c', c.fillSlot k slot = (.ok (), c') ∧ c'.Keeps W claimed pending) ∨
    (∃ e c', c.fillSlot k slot = (.error (.error e), c') ∧ c'.Keeps W claimed pending) := by
  obtain ⟨g, hg⟩ : ∃ g, Arena.Geometry.ofBlockSize (c.heap.pool k).blockSize = .ok g :=
    (hc.heap.pools k).geometry (hc.heap.limit_pos_of_claimed (i := slot) (by simp))
  rcases hc.houseArena_spec (c.heap.pool k).policy hg with ⟨r, c', h1, h2, h3, h4, h5, h6⟩ | ⟨e, c', h1, h2⟩
  · have hsize := (W.settings hk hc.good h2.good).blockSize
    exact .inl ⟨_, fillSlot_of_ok h1, (h2.publish hk h3 (h5.trans hsize.symm) h4 h6 _).announceGrowth⟩
  · exact .inr ⟨e, _, fillSlot_of_error h1, h2.giveBack hk _⟩

/-! ## Allocation from a pool -/

/-- What comes of an attempt to take a block in a call: one more block is in use, or there was none. -/
theorem take (hc : c.Keeps W claimed pending) (hk : W.Busy k) (bytes : Nat)
    {f : Pool → Except Fault (Option Nat) × Pool} (hf : (c.heap.pool k).Took (claimed k) (f (c.heap.pool k))) :
    (∃ x c', c.onPool k f = (.ok (some x), c') ∧ Ended W (some k) bytes claimed pending (.ok x, c')) ∨
    (∃ q c', f (c.heap.pool k) = (.ok none, q) ∧ (c.heap.pool k).Kept q ∧ c' = { c with heap := c.heap.setPool k q } ∧
      c.onPool k f = (.ok none, c') ∧ c'.Keeps W claimed pending) := by
  rw [onPool_eq]
  generalize hr : f (c.heap.pool k) = r at hf
  cases hf with
  | block hsound hkept hheld =>
    exact .inl ⟨_, _, rfl, .block hc.good (.keep hkept) (.setPool hk _ fun _ _ => rfl)
      (hc.heap.take hsound hkept hheld bytes)⟩
  | nothing hsound hkept hheld =>
    exact .inr ⟨_, _, rfl, hkept, rfl, rfl,
      hc.withHeap (hc.heap.keep hsound hkept hheld) (.keep hkept) (.setPool hk _ fun _ _ => rfl) _⟩

/-- **One round** of an allocation: it ends the allocation in order, or another one follows. -/
theorem round (hc : c.Keeps W claimed pending) (hk : W.Busy k) (bytes : Nat) :
    (∃ r c', c.round k = (some r, c') ∧ Ended W (some k) bytes claimed pending (r, c')) ∨
    (∃ c', c.round k = (none, c') ∧ c'.Keeps W claimed pending) := by
  rcases hc.take hk bytes (f := (·.takeExisting (c.heap.pool k).count))
      ((hc.heap.pools k).takeExisting_took _) with
    ⟨x, c1, h1, h2⟩ | ⟨q, c1, -, hkept, hc1, h1, h2⟩
  · exact .inl ⟨.ok x, c1, round_of_found h1, h2⟩
  have hcount : (c1.heap.pool k).count = (c.heap.pool k).count := by
    rw [hc1]
    exact (Heap.kept_setPool hkept k).count
  by_cases hmax : (c1.heap.pool k).maxArenas ≤ (c.heap.pool k).count
  · exact .inl ⟨_, _, round_of_full h1 hmax, .nothing h2.good⟩
  -- taking blocks does not change the count, so it still is what the round took it for
  have hclaim := onPool_claimSlot hcount
  have hclaimed := h2.claim hk (by omega)
  rw [hcount] at hclaimed
  rcases hclaimed.fillSlot_spec hk with ⟨c2, k1, k2⟩ | ⟨e, c2, k1, k2⟩
  · rcases k2.take hk bytes (f := (·.takeFrom (c.heap.pool k).count))
        ((k2.heap.pools k).takeFrom_took _) with
      ⟨x, c3, l1, l2⟩ | ⟨-, c3, -, -, -, l1, l2⟩
    · exact .inl ⟨.ok x, c3, round_of_grown h1 hmax hclaim k1 l1, l2⟩
    · exact .inr ⟨c3, round_of_outrun h1 hmax hclaim k1 l1, l2⟩
  · exact .inl ⟨.error (.error e), c2, round_of_failed h1 hmax hclaim k1, .nothing k2.good⟩

theorem rounds (hk : W.Busy k) (bytes fuel : Nat) : ∀ {c : Call ε}, c.Keeps W claimed pending →
    Ended W (some k) bytes claimed pending (c.rounds k fuel) := by
  induction fuel with
  | zero =>
    intro c hc
    exact .stalled hc.good
  | succ fuel ih =>
    intro c hc
    rw [Call.rounds]
    rcases hc.round hk bytes with ⟨r, c', h1, h2⟩ | ⟨c', h1, h2⟩
    · rw [h1]
      exact h2
    · rw [h1]
      exact ih h2

/-- **Allocation from a pool.** -/
theorem allocate (hc : c.Keeps W claimed pending) (hk : W.Busy k) (bytes : Nat) :
    Ended W (some k) bytes claimed pending (c.allocate k) :=
  rounds hk bytes _ hc

/-! ## Blocks with mappings of their own -/

/-- **Allocation of a mapping.** -/
theorem mapOversized (hc : c.Keeps W claimed pending) (bytes : Nat) :
    Ended W none bytes claimed pending (c.mapOversized bytes) := by
  rw [Call.mapOversized]
  split
  · rename_i offset total ho ht
    rcases hc.map_spec total with ⟨m, c', h1, h2, h3⟩ | ⟨e, c', h1, h2⟩
    · have hheap := h2.heap
      rw [Multiset.cons_add] at hheap
      rw [h1]
      exact .block h2.good (.of_pools rfl rfl) (.of_pools rfl) (hheap.house ho ht h3)
    · rw [h1]
      exact .nothing h2.good
  · exact .nothing hc.good

end Keeps

end Call

end BlockHeap
