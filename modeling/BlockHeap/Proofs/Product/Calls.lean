import BlockHeap.Proofs.Product.Twin

/-!
# Calls on the twin

A call that works on pool `k` is mirrored by the same call on the twin: both end with the same answer and have logged
the same events, and the chronicle of the twin still follows (`Mirrors`). What the call on the twin needs for this, the
answers of the operating system and what others do to the twin in the meantime, is found stage by stage, in the order in
which the call uses it up: asking for mappings and making an arena (`Watched.map` to `Watched.houseArena`), filling a
slot (`Watched.fillSlot`), and allocation from the pool (`Watched.round`, `Watched.allocate`).
-/

namespace BlockHeap

variable {src : Source} {h₀ : Heap} {k : Nat}

/-- Whatever the interlude does, it can be followed. -/
def Interlude.Followed (src : Source) (h₀ : Heap) (k : Nat) (f : Interlude Journal) : Prop :=
  ∀ (s : Chronicle) (claimed : Nat → List Nat) (pending own : Multiset Mapping), s.Sound src h₀ claimed pending →
    own ≤ pending → Follows k own s (f s)

theorem Interlude.followed_id : Interlude.Followed src h₀ k id := fun s _ _ _ _ _ => .refl s

theorem tracedDecisions_append (src : Source) (as bs : List Answer) :
    tracedDecisions src (as ++ bs) = tracedDecisions src as ++ tracedDecisions src bs := by
  induction as with
  | nil => rw [List.nil_append, tracedDecisions, List.nil_append]
  | cons a as ih => rw [List.cons_append, tracedDecisions, ih, tracedDecisions, List.cons_append]

theorem tracedGrowths_append (src : Source) (gs hs : List (List Op)) :
    tracedGrowths src (gs ++ hs) = tracedGrowths src gs ++ tracedGrowths src hs := by
  induction gs with
  | nil => rw [List.nil_append, tracedGrowths, List.nil_append]
  | cons ops gs ih => rw [List.cons_append, tracedGrowths, ih, tracedGrowths, List.cons_append]

/-- The mappings of a pool and those in the hands of some calls are in place. -/
theorem Heap.Sound.mappings_add_le {h : Heap} {blocks : Multiset Block} {claimed : Nat → List Nat}
    {pending own : Multiset Mapping} (hs : h.Sound blocks claimed pending) (hown : own ≤ pending) (k : Nat) :
    (h.pool k).mappings + own ≤ h.os.space.live := by
  rw [hs.mapped]
  exact add_le_add ((h.mappings_le k).trans (Multiset.le_add_right _ _)) hown

namespace Call

/-- A call in progress that keeps its chronicle sound, with interludes that can be followed. -/
structure Watched (src : Source) (h₀ : Heap) (k : Nat) (c : Call Journal) (claimed : Nat → List Nat)
    (pending : Multiset Mapping) : Prop where
  keeps : c.Keeps (Chronicle.terms src h₀) claimed pending
  decisions : ∀ d ∈ c.decisions, Interlude.Followed src h₀ k d.meanwhile
  growths : ∀ f ∈ c.growths, Interlude.Followed src h₀ k f

/-- The second call is that on the twin, with the same events so far; these interludes and answers are to come. -/
structure Paired (k : Nat) (script : List (Option Nat)) (own : Multiset Mapping) (c d : Call Journal)
    (decisions : List (Decision Journal)) (growths : List (Interlude Journal)) (rest : List (Option Nat)) : Prop where
  twin : Twin k script own c.chronicle d.chronicle rest
  events : d.events = c.events
  decisions : d.decisions = decisions
  growths : d.growths = growths

theorem Paired.pool {script rest : List (Option Nat)} {own : Multiset Mapping} {c d : Call Journal}
    {decisions : List (Decision Journal)} {growths : List (Interlude Journal)}
    (h : Paired k script own c d decisions growths rest) : d.heap.pool 0 = c.heap.pool k := h.twin.pool

/-- A step from one call to another, by which the mappings in hand change from `own` to `own'`, is mirrored by a step
`R` of the call on the twin. -/
structure Mirrors (k : Nat) (own own' : Multiset Mapping) (c c' : Call Journal)
    (R : Call Journal → Call Journal → Prop) : Prop where
  decisions : c'.decisions ⊆ c.decisions
  growths : c'.growths ⊆ c.growths
  /-- What the step on the twin uses up comes first, whatever comes after it. -/
  twin : ∃ (as : List Answer) (gs : List (List Op)) (seg : List (Option Nat)), ∀ script d decisions growths rest,
    Paired k script own c d (tracedDecisions (.pool 0) as ++ decisions) (tracedGrowths (.pool 0) gs ++ growths)
      (seg ++ rest) →
    ∃ d', R d d' ∧ Paired k script own' c' d' decisions growths rest

namespace Mirrors

variable {own own' own'' : Multiset Mapping} {c c' c'' : Call Journal} {R R' : Call Journal → Call Journal → Prop}

/-- A step that uses up nothing. -/
theorem of_paired (hdecisions : c'.decisions = c.decisions) (hgrowths : c'.growths = c.growths)
    (h : ∀ script d decisions growths rest, Paired k script own c d decisions growths rest →
      ∃ d', R d d' ∧ Paired k script own' c' d' decisions growths rest) : Mirrors k own own' c c' R := by
  refine ⟨hdecisions ▸ List.Subset.refl _, hgrowths ▸ List.Subset.refl _, [], [], [],
    fun script d decisions growths rest hd => ?_⟩
  rw [tracedDecisions, tracedGrowths] at hd
  exact h script d decisions growths rest hd

theorem refl (c : Call Journal) : Mirrors k own own c c (fun d d' => d' = d) :=
  of_paired rfl rfl fun _ d _ _ _ hd => ⟨d, rfl, hd⟩

/-- One step after the other. -/
theorem trans (h : Mirrors k own own' c c' R) (h' : Mirrors k own' own'' c' c'' R') :
    Mirrors k own own'' c c'' (fun d d'' => ∃ d', R d d' ∧ d'.heap.pool 0 = c'.heap.pool k ∧ R' d' d'') := by
  obtain ⟨as, gs, seg, htwin⟩ := h.twin
  obtain ⟨as', gs', seg', htwin'⟩ := h'.twin
  refine ⟨List.Subset.trans h'.decisions h.decisions, List.Subset.trans h'.growths h.growths, as ++ as', gs ++ gs',
    seg ++ seg', fun script d decisions growths rest hd => ?_⟩
  rw [tracedDecisions_append, tracedGrowths_append, List.append_assoc, List.append_assoc, List.append_assoc] at hd
  obtain ⟨d', hR, hd'⟩ := htwin script d _ _ _ hd
  obtain ⟨d'', hR', hd''⟩ := htwin' script d' _ _ _ hd'
  exact ⟨d'', ⟨d', hR, hd'.pool, hR'⟩, hd''⟩

/-- What the steps on the twin come to. -/
theorem imp (h : Mirrors k own own' c c' R) (hR : ∀ d d', d.heap.pool 0 = c.heap.pool k → R d d' → R' d d') :
    Mirrors k own own' c c' R' := by
  obtain ⟨as, gs, seg, htwin⟩ := h.twin
  refine ⟨h.decisions, h.growths, as, gs, seg, fun script d decisions growths rest hd => ?_⟩
  obtain ⟨d', hd', hpaired⟩ := htwin script d decisions growths rest hd
  exact ⟨d', hR d d' hd.pool hd', hpaired⟩

/-- Logging an event. -/
theorem log (c : Call Journal) (e : Event) : Mirrors k own own c (c.log e) (fun d d' => d' = d.log e) :=
  of_paired rfl rfl fun _ d _ _ _ hd => ⟨d.log e, rfl, hd.twin, congrArg (·.push e) hd.events, hd.decisions, hd.growths⟩

/-- Work in the pool. -/
theorem onPool {α : Type} (hk : k < c.heap.pools.size) {f : Pool → α × Pool}
    (hmap : (f (c.heap.pool k)).2.mappings + own' = (c.heap.pool k).mappings + own) {r : α}
    (h : c.onPool k f = (r, c')) : Mirrors k own own' c c' (fun d d' => d.onPool 0 f = (r, d')) := by
  rw [onPool_eq] at h
  cases h
  refine of_paired rfl rfl fun script d decisions growths rest hd => ?_
  refine ⟨{ d with heap := d.heap.setPool 0 (f (c.heap.pool k)).2 }, ?_, hd.twin.setPool hk hmap, hd.events,
    hd.decisions, hd.growths⟩
  rw [onPool_eq, hd.pool]

/-- Giving back a mapping that is in the hands of the call. -/
theorem unmap (c : Call Journal) (m : Mapping) :
    Mirrors k (m ::ₘ own) own c (c.unmap m) (fun d d' => d' = d.unmap m) :=
  of_paired rfl rfl fun _ d _ _ _ hd => ⟨d.unmap m, rfl, hd.twin.unmap, hd.events, hd.decisions, hd.growths⟩

end Mirrors

namespace Watched

variable {claimed claimed' : Nat → List Nat} {pending pending' own own' : Multiset Mapping} {c c' : Call Journal}

/-- What is to come after a step was to come before. -/
theorem after (hc : c.Watched src h₀ k claimed pending) {R : Call Journal → Call Journal → Prop}
    (h : Mirrors k own own' c c' R) (hkeeps : c'.Keeps (Chronicle.terms src h₀) claimed' pending') :
    c'.Watched src h₀ k claimed' pending' :=
  ⟨hkeeps, fun d hd => hc.decisions d (h.decisions hd), fun f hf => hc.growths f (h.growths hf)⟩

/-- The pool stays in the table. -/
theorem lt_size (hc : c.Watched src h₀ k claimed pending) (hk : k < h₀.pools.size) : k < c.heap.pools.size := by
  have halike : h₀.Alike c.heap := hc.keeps.good.alike
  rwa [halike.size]

/-! ## Mappings -/

/-- **Asking for a mapping.** -/
theorem map (hc : c.Watched src h₀ k claimed pending) (hown : own ≤ pending) {size : Nat} (hsize : size ≠ 0)
    {r : Except AllocError Mapping} (h : c.map size = (r, c')) :
    Mirrors k own (inHand ({·}) own r) c c' (fun d d' => d.map size = (r, d')) := by
  have horderly := headD_of_forall (P := fun d : Decision Journal => (Chronicle.terms src h₀).Orderly d.meanwhile)
    (d := .grant) Terms.orderly_id hc.keeps.decisions
  have hfollowed := headD_of_forall (P := fun d : Decision Journal => Interlude.Followed src h₀ k d.meanwhile)
    (d := .grant) Interlude.followed_id hc.decisions
  have hgood : Chronicle.Sound src h₀ _ claimed pending := horderly _ claimed pending hc.keeps.good
  -- others work first, and the twin keeps up with them
  obtain ⟨ops, seg, hfollows⟩ := hfollowed c.chronicle claimed pending own hc.keeps.good hown
  generalize hs : (c.decisions.headD .grant).meanwhile (c.heap, c.rest) = s at hgood
  have hs' : (c.decisions.headD .grant).meanwhile c.chronicle = s := hs
  rw [hs'] at hfollows
  have hle := hgood.heap.mappings_add_le hown k
  cases hos : s.1.os.map size (c.decisions.headD .grant).refuse with
  | mk x os =>
    rw [map_of_answer hs hos] at h
    cases h
    refine ⟨fun d hd => List.mem_of_mem_tail hd, List.Subset.refl _, [.mk ops false], [], seg ++ [Os.outcome x],
      fun script d decisions growths rest hd => ?_⟩
    have hnext : d.decisions = ⟨traceAll (.pool 0) ops, false⟩ :: decisions := by
      rw [hd.decisions, tracedDecisions, tracedDecisions, Answer.traced]
      rfl
    have htwin := hd.twin
    rw [List.append_assoc] at htwin
    -- then the twin is told the answer
    obtain ⟨os', hos', htwin'⟩ := (hfollows script d.chronicle _ htwin).map hgood.heap.os hle hsize hos
    refine ⟨_, map_of_answer (by rw [hnext]) (by rw [hnext]; exact hos'), ?_, ?_, ?_, hd.growths⟩
    · cases x <;> exact htwin'
    · rw [hd.events]
    · rw [hnext]
      rfl

/-- Mapping the region of an arena. -/
theorem mapArena (hc : c.Watched src h₀ k claimed pending) (hown : own ≤ pending) (policy : Policy) {size : Nat}
    {g : Arena.Geometry} (hg : Arena.Geometry.ofBlockSize size = .ok g) {r : Except Failure Arena}
    (h : c.mapArena policy size = (r, c')) :
    Mirrors k own (inHand (fun a => {a.region}) own r) c c' (fun d d' => d.mapArena policy size = (r, d')) := by
  cases hmap : c.map Arena.regionBytes with
  | mk x c1 =>
  have hmirrors := hc.map hown (by decide) hmap
  cases x with
  | error e =>
    rw [Call.mapArena, hg] at h
    simp only [hmap] at h
    cases h
    refine hmirrors.imp fun d d' _ hd => ?_
    rw [Call.mapArena, hg]
    simp only [hd]
  | ok m =>
    obtain ⟨f, hcreate, -⟩ := Arena.create_eq policy m (Arena.Geometry.ofBlockSize_fits hg).2
    rw [Call.mapArena, hg] at h
    simp only [hmap, hcreate] at h
    cases h
    refine (hmirrors.trans (.log c1 _)).imp ?_
    rintro d d2 - ⟨d1, hd, -, rfl⟩
    rw [Call.mapArena, hg]
    simp only [hd, hcreate]

/-- **Making an arena.** -/
theorem houseArena (hc : c.Watched src h₀ k claimed pending) (hown : own ≤ pending) (policy : Policy) {size : Nat}
    {g : Arena.Geometry} (hg : Arena.Geometry.ofBlockSize size = .ok g) {r : Except Failure (Resident Arena)}
    (h : c.houseArena policy size = (r, c')) :
    Mirrors k own (inHand Resident.mappings own r) c c' (fun d d' => d.houseArena policy size = (r, d')) := by
  rcases hc.keeps.mapArena_spec policy hg with ⟨a, c1, h1, h2, -⟩ | ⟨e, c1, h1, -⟩
  · have hregion := hc.mapArena hown policy hg h1
    have hc1 := hc.after hregion h2
    cases hmap : c1.map Arena.headerBytes with
    | mk x c2 =>
    have hheader := hc1.map (Multiset.cons_le_cons a.region hown) (by decide) hmap
    rw [Call.houseArena, h1] at h
    cases x with
    | error e =>
      simp only [Call.house, hmap] at h
      cases h
      refine ((hregion.trans hheader).trans (.unmap c2 a.region)).imp ?_
      rintro d d3 - ⟨d2, ⟨d1, hd1, -, hd2⟩, -, rfl⟩
      rw [Call.houseArena, hd1]
      simp only [Call.house, hd2]
    | ok m =>
      simp only [Call.house, hmap] at h
      cases h
      have hmappings : Resident.mappings ⟨a, m⟩ + own = m ::ₘ a.region ::ₘ own := by
        rw [Resident.mappings, Multiset.cons_add, Multiset.singleton_add, Multiset.cons_swap]
      rw [inHand, hmappings]
      refine (hregion.trans hheader).imp ?_
      rintro d d2 - ⟨d1, hd1, -, hd2⟩
      rw [Call.houseArena, hd1]
      simp only [Call.house, hd2]
  · rw [Call.houseArena, h1] at h
    cases h
    refine (hc.mapArena hown policy hg h1).imp fun d d' _ hd => ?_
    rw [Call.houseArena, hd]

/-! ## Growth -/

/-- Letting others work after a growth. -/
theorem announceGrowth (hc : c.Watched src h₀ k claimed pending) (hown : own ≤ pending) :
    Mirrors k own own c c.announceGrowth (fun d d' => d' = d.announceGrowth) := by
  have hfollowed := headD_of_forall (d := id) Interlude.followed_id hc.growths
  obtain ⟨ops, seg, hfollows⟩ := hfollowed c.chronicle claimed pending own hc.keeps.good hown
  refine ⟨List.Subset.refl _, fun f hf => List.mem_of_mem_tail hf, [], [ops], seg,
    fun script d decisions growths rest hd => ⟨_, rfl, ?_⟩⟩
  have hannounce : d.announceGrowth = ({ d with growths } : Call Journal).interlude (traceAll (.pool 0) ops) := by
    rw [Call.announceGrowth, hd.growths, tracedGrowths, tracedGrowths]
    rfl
  rw [hannounce]
  exact ⟨hfollows script d.chronicle rest hd.twin, hd.events, hd.decisions, rfl⟩

/-- **A claimed slot** is filled, or given back. -/
theorem fillSlot {slot : Nat} (hk : k < h₀.pools.size)
    (hc : c.Watched src h₀ k (Function.update claimed k (slot :: claimed k)) pending) (hown : own ≤ pending)
    {r : Except Failure Unit} (h : c.fillSlot k slot = (r, c')) :
    Mirrors k own own c c' (fun d d' => d.fillSlot 0 slot = (r, d')) := by
  obtain ⟨g, hg⟩ : ∃ g, Arena.Geometry.ofBlockSize (c.heap.pool k).blockSize = .ok g :=
    (hc.keeps.heap.pools k).geometry (hc.keeps.heap.limit_pos_of_claimed (i := slot) (by simp))
  rcases hc.keeps.houseArena_spec (c.heap.pool k).policy hg with
    ⟨x, c1, h1, h2, h3, h4, h5, h6⟩ | ⟨e, c1, h1, h2⟩
  · have hhoused : Mirrors k own (x.mappings + own) c c1 _ := hc.houseArena hown (c.heap.pool k).policy hg h1
    have hc1 := hc.after hhoused h2
    have hsize := ((Chronicle.terms src h₀).settings (k := k) trivial hc.keeps.good h2.good).blockSize
    have hpublished : Mirrors k (x.mappings + own) own c1 (c1.modifyPool k (·.publish slot x))
        (fun d d' => d.onPool 0 (fun p => ((), p.publish slot x)) = ((), d')) := by
      refine .onPool (hc1.lt_size hk) ?_ rfl
      rw [((h2.heap.pools k).publish_spec (by simp) h3 (h5.trans hsize.symm) h4).2.2.1, add_assoc, add_left_comm]
    have hgrown := (hhoused.trans hpublished).trans
      (.log _ (.poolGrew (c.heap.pool k).policy (c.heap.pool k).blockSize slot))
    have hc2 := hc.after hgrown (h2.publish trivial h3 (h5.trans hsize.symm) h4 h6 _)
    rw [fillSlot_of_ok h1] at h
    cases h
    refine (hgrown.trans (hc2.announceGrowth hown)).imp ?_
    rintro d d4 hpool ⟨d3, ⟨d2, ⟨d1, hd1, -, hd2⟩, -, rfl⟩, -, rfl⟩
    rw [fillSlot_of_ok (by rw [hpool]; exact hd1), hpool, Call.modifyPool, hd2]
  · have hhoused : Mirrors k own own c c1 _ := hc.houseArena hown (c.heap.pool k).policy hg h1
    cases hback : c1.onPool k (·.giveBack slot) with
    | mk b c2 =>
    have hgiven : Mirrors k own own c1 c2 (fun d d' => d.onPool 0 (·.giveBack slot) = (b, d')) := by
      refine .onPool ((hc.after hhoused h2).lt_size hk) ?_ hback
      rw [Pool.mappings, Pool.mappings, Pool.arenas_giveBack]
    rw [fillSlot_of_error h1, hback] at h
    cases h
    refine ((hhoused.trans hgiven).trans (.log c2 _)).imp ?_
    rintro d d3 hpool ⟨d2, ⟨d1, hd1, -, hd2⟩, -, rfl⟩
    rw [fillSlot_of_error (by rw [hpool]; exact hd1), hd2, hpool]

/-! ## Allocation from the pool -/

/-- An attempt to take a block. -/
theorem take (hk : k < h₀.pools.size) (hc : c.Watched src h₀ k claimed pending)
    {f : Pool → Except Fault (Option Nat) × Pool} {r : Except Fault (Option Nat)} (h : c.onPool k f = (r, c'))
    (hf : (c.heap.pool k).Took (claimed k) (f (c.heap.pool k))) :
    Mirrors k own own c c' (fun d d' => d.onPool 0 f = (r, d')) :=
  .onPool (hc.lt_size hk) (by rw [hf.kept.mappings]) h

/-- **One round** of an allocation. -/
theorem round (hk : k < h₀.pools.size) (hc : c.Watched src h₀ k claimed pending) (hown : own ≤ pending)
    {r : Option (Except Failure Nat)} (h : c.round k = (r, c')) :
    Mirrors k own own c c' (fun d d' => d.round 0 = (r, d')) := by
  have hfound := (hc.keeps.heap.pools k).takeExisting_took (c.heap.pool k).count
  rcases hc.keeps.take trivial 0 (f := (·.takeExisting (c.heap.pool k).count)) hfound with
    ⟨x, c1, h1, -⟩ | ⟨q, c1, -, hkept, hc1, h1, h2⟩
  · rw [round_of_found h1] at h
    cases h
    refine (hc.take hk h1 hfound).imp fun d d' hpool hd => ?_
    exact round_of_found (by rw [hpool]; exact hd)
  have htake : Mirrors k own own c c1 _ := hc.take hk h1 hfound
  by_cases hmax : (c1.heap.pool k).maxArenas ≤ (c.heap.pool k).count
  · rw [round_of_full h1 hmax] at h
    cases h
    refine (htake.trans (.log c1 _)).imp ?_
    rintro d d2 hpool ⟨d1, hd1, hpool1, rfl⟩
    rw [round_of_full (by rw [hpool]; exact hd1) (by rw [hpool, hpool1]; exact hmax), hpool, hpool1]
  have hcount : (c1.heap.pool k).count = (c.heap.pool k).count := by
    rw [hc1]
    exact (Heap.kept_setPool hkept k).count
  obtain ⟨c2, hclaim, hclaimed⟩ : ∃ c2, c1.onPool k (·.claimSlot (c.heap.pool k).count) = (true, c2) ∧
      c2.Keeps (Chronicle.terms src h₀) (Function.update claimed k ((c.heap.pool k).count :: claimed k)) pending := by
    have hclaimed := h2.claim (k := k) trivial (by omega)
    rw [hcount] at hclaimed
    exact ⟨_, onPool_claimSlot hcount, hclaimed⟩
  have hopened : Mirrors k own own c1 c2 (fun d d' => d.onPool 0 (·.claimSlot (c.heap.pool k).count) = (true, d')) := by
    refine .onPool ((hc.after htake h2).lt_size hk) ?_ hclaim
    rw [Pool.claimSlot, if_pos hcount]
    rfl
  have hc2 := hc.after (htake.trans hopened) hclaimed
  rcases hclaimed.fillSlot_spec trivial with ⟨c3, k1, k2⟩ | ⟨e, c3, k1, -⟩
  · have hfilled := hc2.fillSlot hk hown k1
    have htook := (k2.heap.pools k).takeFrom_took (c.heap.pool k).count
    have hc3 := hc2.after hfilled k2
    rcases k2.take trivial 0 (f := (·.takeFrom (c.heap.pool k).count)) htook with
      ⟨x, c4, l1, -⟩ | ⟨-, c4, -, -, -, l1, -⟩
    · rw [round_of_grown h1 hmax hclaim k1 l1] at h
      cases h
      refine (((htake.trans hopened).trans hfilled).trans (hc3.take hk l1 htook)).imp ?_
      rintro d d4 hpool ⟨d3, ⟨d2, ⟨d1, hd1, hpool1, hd2⟩, -, hd3⟩, -, hd4⟩
      rw [← hpool] at hd1 hd2 hd3 hd4
      exact round_of_grown hd1 (by rw [hpool, hpool1]; exact hmax) hd2 hd3 hd4
    · rw [round_of_outrun h1 hmax hclaim k1 l1] at h
      cases h
      refine (((htake.trans hopened).trans hfilled).trans (hc3.take hk l1 htook)).imp ?_
      rintro d d4 hpool ⟨d3, ⟨d2, ⟨d1, hd1, hpool1, hd2⟩, -, hd3⟩, -, hd4⟩
      rw [← hpool] at hd1 hd2 hd3 hd4
      exact round_of_outrun hd1 (by rw [hpool, hpool1]; exact hmax) hd2 hd3 hd4
  · rw [round_of_failed h1 hmax hclaim k1] at h
    cases h
    refine ((htake.trans hopened).trans (hc2.fillSlot hk hown k1)).imp ?_
    rintro d d3 hpool ⟨d2, ⟨d1, hd1, hpool1, hd2⟩, -, hd3⟩
    rw [← hpool] at hd1 hd2 hd3
    exact round_of_failed hd1 (by rw [hpool, hpool1]; exact hmax) hd2 hd3

theorem rounds (hk : k < h₀.pools.size) (hown : own ≤ pending) (fuel : Nat) :
    ∀ {c c' : Call Journal} {r : Except Failure Nat}, c.Watched src h₀ k claimed pending →
      c.rounds k fuel = (r, c') → Mirrors k own own c c' (fun d d' => d.rounds 0 fuel = (r, d')) := by
  induction fuel with
  | zero =>
    intro c c' r hc h
    cases h
    refine (Mirrors.refl c).imp fun d d' _ hd => ?_
    rw [hd]
    rfl
  | succ fuel ih =>
    intro c c' r hc h
    rw [Call.rounds] at h
    rcases hc.keeps.round trivial 0 with ⟨r1, c1, h1, -⟩ | ⟨c1, h1, h2⟩
    · rw [h1] at h
      cases h
      refine (hc.round hk hown h1).imp fun d d' _ hd => ?_
      rw [Call.rounds, hd]
    · rw [h1] at h
      have hround := hc.round hk hown h1
      refine (hround.trans (ih (hc.after hround h2) h)).imp ?_
      rintro d d2 - ⟨d1, hd1, -, hd2⟩
      rw [Call.rounds, hd1]
      exact hd2

/-- **Allocation from the pool.** -/
theorem allocate (hk : k < h₀.pools.size) (hc : c.Watched src h₀ k claimed pending) (hown : own ≤ pending)
    {r : Except Failure Nat} (h : c.allocate k = (r, c')) :
    Mirrors k own own c c' (fun d d' => d.allocate 0 = (r, d')) := by
  refine (rounds hk hown _ hc h).imp fun d d' hpool hd => ?_
  rw [Call.allocate, hpool]
  exact hd

end Watched

end Call

end BlockHeap
