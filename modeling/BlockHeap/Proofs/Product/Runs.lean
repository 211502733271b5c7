import BlockHeap.Proofs.Product.Calls

/-!
# Runs on the twin

Whatever operations are carried out, there are operations on the twin of pool `k` that keep up with them
(`traceAll_followed`). A request to pool `k` is made to the twin as well, and a block from pool `k` is given back to the
twin as well; what others do in the meantime is followed in the meantime. A request to others is followed step by step,
and the twin only takes part when pool `k` is used in the meantime. So a pool of a heap goes through the same states,
and gives the same answers, as a pool alone in its heap (`Heap.Fresh.exists_agree`).
-/

namespace BlockHeap

variable {src : Source} {h₀ : Heap} {k : Nat} {claimed : Nat → List Nat} {pending own : Multiset Mapping}
  {s s₀ : Chronicle}

/-! ## Requests to others -/

/-- Sound journals that the twin has kept up with since `s₀`, as terms for calls that do not work on pool `k`. -/
def Chronicle.beside (src : Source) (h₀ : Heap) (k : Nat) (own : Multiset Mapping) (s₀ : Chronicle) :
    Terms Journal where
  Good s claimed pending := Chronicle.Sound src h₀ s claimed (pending + own) ∧ Follows k own s₀ s
  blocks j := j.live
  others _ := own
  Busy j := j ≠ k
  heap hs := hs.1.heap
  settings _ hs ht := (hs.1.alike.pool _).symm.trans (ht.1.alike.pool _)
  step hs hh hp hspared :=
    ⟨⟨⟨hh, hs.1.alike.trans hp.toAlike, hs.1.routed⟩, hs.1.entries⟩, hs.2.aside (hspared.pool k (not_not.mpr rfl))⟩

theorem Interlude.Followed.beside {f : Interlude Journal} (hf : Interlude.Followed src h₀ k f)
    (horderly : (Chronicle.terms src h₀).Orderly f) : (Chronicle.beside src h₀ k own s₀).Orderly f :=
  fun s claimed pending hs => ⟨horderly s claimed (pending + own) hs.1,
    hs.2.trans (hf s claimed (pending + own) own hs.1 (Multiset.le_add_left own pending))⟩

/-- A request that another pool serves, or none. -/
theorem Follows.settle_of_ne {bytes : Nat} (hbytes : src.poolOf bytes ≠ some k) {c : Call Journal}
    (hc : c.Keeps (Chronicle.beside src h₀ k own s₀) claimed pending) :
    Follows k own s₀ (Chronicle.settle src bytes (src.allocate c bytes)) := by
  have hended := hc.source_allocate src bytes fun j hj (e : j = k) => hbytes (e ▸ hj)
  generalize src.allocate c bytes = r at hended
  rw [Chronicle.settle]
  refine Follows.trans ?_ (.of_twin fun _ _ _ ht => ht.note_of_ne hbytes _)
  cases hended with
  | block hgood hproper hspared hsound =>
    exact (hgood.2.aside (hspared.pool k (not_not.mpr rfl))).trans (.of_twin fun _ _ _ ht => ht.enter_of_ne hbytes)
  | nothing hgood => exact hgood.2
  | stalled hgood => exact hgood.2

/-! ## Operations -/

/-- Giving a block back to its pool. -/
theorem Chronicle.giveBack_of_poolOf {i bytes : Nat} {b : Block} (hb : s.2.live[i]? = some b)
    (hbytes : src.accepts b.bytes bytes = true) (hk : src.poolOf bytes = some k) {q : Pool}
    (hq : (s.1.pool k).deallocate b.address = (.ok (), q)) :
    s.giveBack src i bytes =
      (Chronicle.strike (s.1.setPool k q, s.2) i).note (some k) (.giveBack b.address bytes (.ok ())) := by
  have hdeallocate : src.deallocate (Call.alone s.1 s.2) b.address bytes =
      (.ok (), { Call.alone s.1 s.2 with heap := s.1.setPool k q }) := by
    rw [Source.deallocate_of_poolOf hk, Call.deallocate, Call.onPool_eq]
    simp only [Call.alone, hq]
  rw [Chronicle.giveBack, hb]
  simp only [hbytes, if_true, hdeallocate, hk]
  rfl

/-- Giving a block back. -/
theorem Chronicle.Sound.giveBack_follows (hk : k < h₀.pools.size) (hs : s.Sound src h₀ claimed pending)
    (own : Multiset Mapping) (i bytes : Nat) : Follows k own s (s.giveBack src i bytes) := by
  cases hb : s.2.live[i]? with
  | none =>
    rw [Chronicle.giveBack, hb]
    exact .refl s
  | some b =>
  by_cases hbytes : src.accepts b.bytes bytes = true
  swap
  · rw [Chronicle.giveBack, hb]
    simp only [hbytes]
    exact .refl s
  have hheap := hs.heap
  rw [coe_live_eq_cons hb] at hheap
  have hrouted := hs.routed b (List.mem_of_getElem? hb)
  have hpool : b.pool = src.poolOf bytes := hrouted.trans (Source.accepts_iff hbytes).1.symm
  by_cases hbytes' : src.poolOf bytes = some k
  · obtain ⟨q, h1, h2, -⟩ := hheap.give (hpool.trans hbytes')
    obtain ⟨j, hj, herase⟩ := blocksOf_eraseIdx hb (hpool.trans hbytes')
    have hlt : k < s.1.pools.size := hs.alike.size ▸ hk
    rw [giveBack_of_poolOf hb hbytes hbytes' h1]
    refine ⟨[.deallocate j bytes], [], fun script t rest ht => ?_⟩
    rw [traceAll, traceAll, Op.trace, giveBack_of_poolOf (k := 0) (ht.live ▸ hj) rfl rfl (ht.pool ▸ h1)]
    exact ((ht.setPool hlt (by rw [h2.mappings])).strike herase).note _
  · obtain ⟨c, h1, h2, -⟩ := hheap.source_deallocate hrouted hbytes s.2
    have hsame := Source.pool_deallocate hbytes' (Call.alone s.1 s.2) b.address
    rw [h1] at hsame
    rw [Chronicle.giveBack, hb]
    simp only [hbytes, if_true, h1]
    refine .of_twin fun script t rest ht => ?_
    have haside := ht.aside hsame
    rw [Call.chronicle, h2]
    exact (haside.strike_of_ne hb (hpool ▸ hbytes')).note_of_ne hbytes' _

/-- A request ends in the same way on the twin. -/
theorem Call.Paired.settle {script rest : List (Option Nat)} {c d : Call Journal}
    {decisions : List (Decision Journal)} {growths : List (Interlude Journal)}
    (h : Call.Paired k script own c d decisions growths rest) {bytes : Nat} (hbytes : src.poolOf bytes = some k)
    (r : Except Failure Nat) :
    Twin k script own (Chronicle.settle src bytes (r, c)) (Chronicle.settle (.pool 0) bytes (r, d)) rest := by
  rw [Chronicle.settle, Chronicle.settle, hbytes, h.events]
  cases r with
  | ok x => exact (h.twin.enter x bytes).note _
  | error f => exact h.twin.note _

/-- A request to the pool. -/
theorem Chronicle.Sound.allocate_follows (hk : k < h₀.pools.size) (hs : s.Sound src h₀ claimed pending)
    (hown : own ≤ pending) {bytes : Nat} (hbytes : src.poolOf bytes = some k) {maps : List Answer}
    {grown : List (List Op)} (hmaps : ∀ d ∈ tracedDecisions src maps, Interlude.Followed src h₀ k d.meanwhile)
    (hgrown : ∀ f ∈ tracedGrowths src grown, Interlude.Followed src h₀ k f) :
    Follows k own s (Op.trace src (.allocate bytes maps grown) s) := by
  have hc : Call.Watched src h₀ k ⟨s.1, _, tracedDecisions src maps, tracedGrowths src grown, #[]⟩ claimed pending :=
    ⟨⟨hs.ask (src.poolOf bytes) bytes, tracedDecisions_orderly maps, tracedGrowths_orderly grown⟩, hmaps, hgrown⟩
  cases hr : Call.allocate ⟨s.1, _, tracedDecisions src maps, tracedGrowths src grown, #[]⟩ k with
  | mk r c =>
  obtain ⟨as, gs, seg, htwin⟩ := (hc.allocate hk hown hr).twin
  refine ⟨[.allocate bytes as gs], seg, fun script t rest ht => ?_⟩
  obtain ⟨d, hd, hpaired⟩ := htwin script
    ⟨t.1, _, tracedDecisions (.pool 0) as, tracedGrowths (.pool 0) gs, #[]⟩ [] [] rest
    ⟨hbytes ▸ ht.note (.ask bytes), rfl, (List.append_nil _).symm, (List.append_nil _).symm⟩
  rw [traceAll, traceAll, Op.trace, Op.trace]
  have hs' : src.allocate ⟨s.1, _, tracedDecisions src maps, tracedGrowths src grown, #[]⟩ bytes = (r, c) :=
    (Source.allocate_of_poolOf hbytes _).trans hr
  have ht' : (Source.pool 0).allocate ⟨t.1, _, tracedDecisions (.pool 0) as, tracedGrowths (.pool 0) gs, #[]⟩ bytes =
    (r, d) := hd
  have hsettled := hpaired.settle hbytes r
  rw [← hs', ← ht'] at hsettled
  exact hsettled

/-- A request to others. -/
theorem Chronicle.Sound.allocate_follows_of_ne (hs : s.Sound src h₀ claimed pending) (hown : own ≤ pending)
    {bytes : Nat} (hbytes : src.poolOf bytes ≠ some k) {maps : List Answer} {grown : List (List Op)}
    (hmaps : ∀ d ∈ tracedDecisions src maps, Interlude.Followed src h₀ k d.meanwhile)
    (hgrown : ∀ f ∈ tracedGrowths src grown, Interlude.Followed src h₀ k f) :
    Follows k own s (Op.trace src (.allocate bytes maps grown) s) := by
  obtain ⟨others, rfl⟩ := Multiset.le_iff_exists_add.mp hown
  rw [add_comm] at hs
  have hc : Call.Keeps (Chronicle.beside src h₀ k own s)
      ⟨s.1, (s.note (src.poolOf bytes) (.ask bytes)).2, tracedDecisions src maps, tracedGrowths src grown, #[]⟩
      claimed others :=
    ⟨⟨hs.ask _ _, .of_twin fun _ _ _ ht => ht.note_of_ne hbytes _⟩,
      fun d hd => (hmaps d hd).beside (tracedDecisions_orderly maps d hd),
      fun f hf => (hgrown f hf).beside (tracedGrowths_orderly grown f hf)⟩
  rw [Op.trace]
  exact .settle_of_ne hbytes hc

-- one induction over operations, answers and lists of both
mutual

/-- An operation can be followed. -/
theorem Op.trace_followed (hk : k < h₀.pools.size) (op : Op) : Interlude.Followed src h₀ k (op.trace src) := by
  intro s claimed pending own hs hown
  cases op with
  | allocate bytes maps grown =>
    have hmaps := tracedDecisions_followed hk maps
    have hgrown := tracedGrowths_followed hk grown
    by_cases hbytes : src.poolOf bytes = some k
    · exact hs.allocate_follows hk hown hbytes hmaps hgrown
    · exact hs.allocate_follows_of_ne hown hbytes hmaps hgrown
  | deallocate i bytes =>
    rw [Op.trace]
    exact hs.giveBack_follows hk own i bytes

/-- **A run can be followed.** -/
theorem traceAll_followed (hk : k < h₀.pools.size) (ops : List Op) :
    Interlude.Followed src h₀ k (traceAll src ops) := by
  intro s claimed pending own hs hown
  cases ops with
  | nil =>
    rw [traceAll]
    exact .refl s
  | cons op ops =>
    rw [traceAll]
    exact (op.trace_followed hk s claimed pending own hs hown).trans
      (traceAll_followed hk ops _ claimed pending own (op.trace_sound s claimed pending hs) hown)

theorem Answer.traced_followed (hk : k < h₀.pools.size) (a : Answer) :
    Interlude.Followed src h₀ k (a.traced src).meanwhile := by
  cases a with
  | mk meanwhile refuse =>
    rw [Answer.traced]
    exact traceAll_followed hk meanwhile

theorem tracedDecisions_followed (hk : k < h₀.pools.size) (as : List Answer) :
    ∀ d ∈ tracedDecisions src as, Interlude.Followed src h₀ k d.meanwhile := by
  cases as with
  | nil =>
    rw [tracedDecisions]
    intro d hd
    cases hd
  | cons a as =>
    rw [tracedDecisions]
    intro d hd
    rcases List.mem_cons.mp hd with rfl | hd
    · exact a.traced_followed hk
    · exact tracedDecisions_followed hk as d hd

theorem tracedGrowths_followed (hk : k < h₀.pools.size) (grown : List (List Op)) :
    ∀ f ∈ tracedGrowths src grown, Interlude.Followed src h₀ k f := by
  cases grown with
  | nil =>
    rw [tracedGrowths]
    intro f hf
    cases hf
  | cons ops rest =>
    rw [tracedGrowths]
    intro f hf
    rcases List.mem_cons.mp hf with rfl | hf
    · exact traceAll_followed hk ops
    · exact tracedGrowths_followed hk rest f hf

end

/-- **A pool of a heap is like a pool of its own**, with a sound operating system. -/
theorem Heap.Fresh.exists_agree {h : Heap} (h' : h.Fresh) (hk : k < h.pools.size) (src : Source) (ops : List Op) :
    ∃ (script : List (Option Nat)) (ops' : List Op), (Os.told script).Sound ∧
      (traceAll src ops (Chronicle.start h)).Agree k
        (traceAll (.pool 0) ops' (Chronicle.start ((Heap.onOs (.told script)).addPools [h.pool k]))) := by
  obtain ⟨ops', script, hfollows⟩ :=
    traceAll_followed hk ops (Chronicle.start h) _ _ 0 h'.chronicle_sound (Multiset.zero_le _)
  have hnone : (h.pool k).mappings = 0 := by rw [Pool.mappings, (h'.pool_sound k).2, Multiset.zero_bind]
  refine ⟨script, ops', Os.told_sound script, (hfollows script _ [] ?_).agree⟩
  rw [List.append_nil]
  exact .start hnone script

end BlockHeap
