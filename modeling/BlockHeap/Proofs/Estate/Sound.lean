import BlockHeap.Proofs.Estate.Containers
import BlockHeap.Proofs.Heap.Table
import BlockHeap.Proofs.Run.Start

/-!
# Sound worlds

A world is *sound* (`World.Sound`) when its heap is, with the blocks of the estate in use and the regions of its arenas
mapped beside whatever was mapped before; when arenas know their blocks in use; when no pool belongs to two sources, and
pools that belong to none may have no arenas; and when each block is from a source, or has a mapping of its own and
outlived its source. It is *good* (`World.Good`) for the operations in progress when moreover their sources stayed since
they began, and nobody else has claimed slots.

Work that leaves the sources alone keeps a world good (`Good.work`), and so do new sources (`Good.addSource`) and the
dropping of one that is not busy (`Good.dropSource`). So goodness can be the terms on which calls work
(`World.terms`).
-/

namespace BlockHeap.World

variable {foreign : Multiset Mapping} {stray : Nat} {busy : List Nat} {s₀ s : World}
  {claimed claimed' : Nat → List Nat} {pending pending' : Multiset Mapping} {h : Heap} {e : Estate} {o k : Nat}

/-- The pool belongs to one of the busy sources. -/
def Busy (busy : List Nat) (s : World) (k : Nat) : Prop :=
  ∃ o ∈ busy, ∃ src, s.2.container? o = some (.source src) ∧ k ∈ src.poolNumbers

/-- The heap is sound with the blocks of the estate and the regions of its arenas, and each pool and each block has its
owner. -/
structure Sound (foreign : Multiset Mapping) (stray : Nat) (s : World) (claimed : Nat → List Nat)
    (pending : Multiset Mapping) : Prop where
  heap : s.1.Sound s.2.blocks claimed (pending + (s.2.regions + foreign))
  stray : s.1.os.space.stray = stray
  housed : s.1.Housed
  containers : ∀ c ∈ s.2.present, c.Sound
  distinct : s.2.pools.Nodup
  known : ∀ k ∈ s.2.pools, k < s.1.pools.size
  idle : ∀ k, k ∉ s.2.pools → (s.1.pool k).maxArenas = 0
  uses : ∀ u ∈ s.2.uses, s.2.Backs u

/-- The world is sound, and as the operations of busy sources, in progress since `s₀`, expect it. -/
structure Good (foreign : Multiset Mapping) (stray : Nat) (busy : List Nat) (s₀ s : World)
    (claimed : Nat → List Nat) (pending : Multiset Mapping) : Prop extends Sound foreign stray s claimed pending where
  stays : ∀ o ∈ busy, s₀.2.Stays s.2 o
  alike : ∀ k, Busy busy s₀ k → (s₀.1.pool k).Alike (s.1.pool k)
  unclaimed : ∀ k, ¬Busy busy s₀ k → claimed k = []

theorem Busy.mem (hk : Busy busy s k) : k ∈ s.2.pools := by
  obtain ⟨o, -, src, ho, hk⟩ := hk
  exact Multiset.mem_bind.mpr ⟨_, Estate.mem_present ho, hk⟩

/-- A pool that belongs to nobody has no arenas. -/
theorem Sound.arenas_eq_zero (hs : s.Sound foreign stray claimed pending) (hk : k ∉ s.2.pools) :
    (s.1.pool k).arenas = 0 := by
  refine Multiset.eq_zero_of_forall_notMem fun r hr => ?_
  obtain ⟨i, hi⟩ := Pool.mem_arenas.mp hr
  have hlt := (hs.heap.pools k).slots.lt_of_isSome i (by rw [hi]; rfl)
  have hle := (hs.heap.pools k).slots.count_le
  rw [hs.idle k hk] at hle
  omega

/-- The blocks that stay in use when a source is dropped are those that are not from its pools. -/
theorem Sound.outlives_iff (hs : s.Sound foreign stray claimed pending) {src : Source}
    (ho : s.2.container? o = some (.source src)) {u : Use} (hu : u ∈ s.2.uses) :
    (u.owner ≠ o ∨ u.block.pool = none) ↔ ∀ k ∈ src.poolNumbers, u.block.pool ≠ some k := by
  constructor
  · rintro (howner | hnone) k hk hpool
    · rcases hs.uses u hu with ⟨src', h1, h2⟩ | ⟨-, h2⟩
      · exact howner (Estate.owner_unique hs.distinct ho h1 hk (Source.poolOf_mem (h2.symm.trans hpool)))
      · rw [h2] at hpool
        cases hpool
    · rw [hnone] at hpool
      cases hpool
  · intro hpools
    by_contra hboth
    rw [not_or, not_not] at hboth
    obtain ⟨rfl, hsome⟩ := hboth
    obtain ⟨k, hk⟩ := Option.ne_none_iff_exists'.mp hsome
    rcases hs.uses u hu with ⟨src', h1, h2⟩ | ⟨-, h2⟩
    · obtain rfl : src' = src := by
        rw [h1] at ho
        cases ho
        rfl
      exact hpools k (Source.poolOf_mem (h2.symm.trans hk)) hk
    · exact hsome h2

namespace Good

/-- The sources of the beginning are still there. -/
theorem still_busy (hs : Good foreign stray busy s₀ s claimed pending) (hk : Busy busy s₀ k) : Busy busy s k := by
  obtain ⟨o, ho, src, hsrc, hk⟩ := hk
  exact ⟨o, ho, src, (hs.stays o ho).source hsrc, hk⟩

/-- **Work that leaves the sources alone**: blocks come and go, arenas of users come, change and go. -/
theorem work (hs : Good foreign stray busy s₀ s claimed pending)
    (hh : h.Sound e.blocks claimed' (pending' + (e.regions + foreign))) (hp : s.1.Proper h)
    (hpools : e.pools = s.2.pools) (hcontainers : ∀ c ∈ e.present, c.Sound) (hstays : ∀ o, s.2.Stays e o)
    (huses : ∀ u ∈ e.uses, e.Backs u) (hclaimed : ∀ k, ¬Busy busy s₀ k → claimed' k = claimed k) :
    Good foreign stray busy s₀ (h, e) claimed' pending' where
  heap := hh
  stray := hp.stray.trans hs.stray
  housed := hp.housed hs.housed
  containers := hcontainers
  distinct := hpools ▸ hs.distinct
  known k hk := by
    rw [hp.size]
    exact hs.known k (hpools ▸ hk)
  idle k hk := (hp.pool k).maxArenas.trans (hs.idle k (hpools ▸ hk))
  uses := huses
  stays o ho := (hs.stays o ho).trans (hstays o)
  alike k hk := (hs.alike k hk).trans (hp.pool k)
  unclaimed k hk := (hclaimed k hk).trans (hs.unclaimed k hk)

/-- **Blocks come and go.** -/
theorem withUses (hs : Good foreign stray busy s₀ s claimed pending) {uses : List Use}
    (hh : h.Sound ((uses : Multiset Use).map Use.block) claimed' (pending' + (s.2.regions + foreign)))
    (hp : s.1.Proper h) (huses : ∀ u ∈ uses, s.2.Backs u) (hclaimed : ∀ k, ¬Busy busy s₀ k → claimed' k = claimed k) :
    Good foreign stray busy s₀ (h, { s.2 with uses }) claimed' pending' :=
  hs.work hh hp rfl hs.containers (fun o => .refl _ o) huses hclaimed

/-- **A new arena** that is known as such is no longer pending. -/
theorem addArena {a : Arena} (hs : Good foreign stray busy s₀ s claimed (a.region ::ₘ pending)) {g : Arena.Geometry}
    (ha : a.Sound g) (hempty : a.taken = ∅) :
    Good foreign stray busy s₀ (s.1, s.2.add (.arena a [])) claimed pending := by
  refine hs.work ?_ (.refl s.1) ?_ (fun c hc => ?_) (Estate.stays_add s.2 _)
    (fun u hu => (hs.uses u hu).stays (Estate.stays_add s.2 _ _)) fun _ _ => rfl
  · rw [Estate.regions_add, Container.regions, add_assoc, Multiset.singleton_add, Multiset.add_cons,
      ← Multiset.cons_add]
    exact hs.heap
  · rw [Estate.pools_add, Container.pools, zero_add]
  · rw [Estate.present_add] at hc
    rcases Multiset.mem_cons.mp hc with rfl | hc
    · exact ⟨Arena.held_of_empty hempty, g, ha⟩
    · exact hs.containers c hc

/-- **Work in an arena** of a user. -/
theorem changeArena (hs : Good foreign stray busy s₀ s claimed pending) {a a' : Arena} {live live' : List Nat}
    (ho : s.2.container? o = some (.arena a live)) {g : Arena.Geometry} (ha : a'.Sound g) (halike : a.Alike a')
    (hheld : a'.held = (live' : Multiset Nat)) :
    Good foreign stray busy s₀ (s.1, s.2.put o (some (.arena a' live'))) claimed pending := by
  obtain ⟨rest, h1, -, h2, -⟩ := Estate.present_eq_cons ho
  refine hs.work ?_ (.refl s.1) ?_ (fun c hc => ?_) (Estate.stays_put ho _)
    (fun u hu => (hs.uses u hu).stays (Estate.stays_put ho _ _)) fun _ _ => rfl
  · have hheap := hs.heap
    rw [Estate.regions, h1, Multiset.cons_bind] at hheap
    rw [Estate.regions, h2, Multiset.cons_bind, Container.regions, halike.region]
    exact hheap
  · rw [Estate.pools, Estate.pools, h1, h2, Multiset.cons_bind, Multiset.cons_bind]
    rfl
  · rw [h2] at hc
    rcases Multiset.mem_cons.mp hc with rfl | hc
    · exact ⟨hheld, g, ha⟩
    · exact hs.containers c (by rw [h1]; exact Multiset.mem_cons_of_mem hc)

/-- **Dropping an arena** of a user gives its region back. -/
theorem dropArena (hs : Good foreign stray busy s₀ s claimed pending) {a : Arena} {live : List Nat}
    (ho : s.2.container? o = some (.arena a live)) :
    Good foreign stray busy s₀ (s.1.unmap a.region, s.2.put o none) claimed pending := by
  obtain ⟨rest, h1, h2, -, -⟩ := Estate.present_eq_cons ho
  have hheap : s.1.Sound s.2.blocks claimed (a.region ::ₘ (pending + (rest.bind Container.regions + foreign))) := by
    have hheap := hs.heap
    rwa [Estate.regions, h1, Multiset.cons_bind, Container.regions, add_assoc, add_left_comm,
      Multiset.singleton_add] at hheap
  refine hs.work ?_ (.unmap (hheap.pending_mem (Multiset.mem_cons_self _ _))) ?_ (fun c hc => ?_)
    (Estate.stays_put ho _) (fun u hu => (hs.uses u hu).stays (Estate.stays_put ho _ _)) fun _ _ => rfl
  · rw [Estate.regions, h2]
    exact hheap.unmap
  · rw [Estate.pools, Estate.pools, h1, h2, Multiset.cons_bind]
    exact (zero_add _).symm
  · rw [h2] at hc
    exact hs.containers c (by rw [h1]; exact Multiset.mem_cons_of_mem hc)

/-- **A new source** has pools that nobody else has. -/
theorem addSource (hs : Good foreign stray busy s₀ s claimed pending) {ps : List Pool}
    (hps : ∀ p ∈ ps, ∃ (t : Pool.Settings) (policy : Policy), t.Valid ∧ t.build policy = .ok p) {src : Source}
    (hsrc : src.poolNumbers = List.range' s.1.pools.size ps.length) :
    Good foreign stray busy s₀ (s.1.addPools ps, s.2.add (.source src)) claimed pending := by
  have hnew : ∀ p ∈ ps, p.Sound [] ∧ p.arenas = 0 := by
    intro p hp
    obtain ⟨t, policy, ht, hbuild⟩ := hps p hp
    exact Heap.Fresh.build_sound ht hbuild
  have hmem : ∀ {k}, k ∈ src.poolNumbers ↔ s.1.pools.size ≤ k ∧ k < s.1.pools.size + ps.length := by
    intro k
    rw [hsrc, List.mem_range'_1]
  have hpools : (s.2.add (.source src)).pools = (src.poolNumbers : Multiset Nat) + s.2.pools := s.2.pools_add _
  refine { heap := ?_, stray := hs.stray, housed := ?_, containers := fun c hc => ?_, distinct := ?_,
           known := fun k hk => ?_, idle := fun k hk => ?_,
           uses := fun u hu => (hs.uses u hu).stays (Estate.stays_add s.2 _ _),
           stays := fun o ho => (hs.stays o ho).trans (Estate.stays_add s.2 _ o), alike := fun k hk => ?_,
           unclaimed := hs.unclaimed }
  · rw [Estate.regions_add, Container.regions, zero_add]
    exact hs.heap.addPools hnew
  · exact hs.housed.of_pool (Heap.pool_addPools fun p hp => (hnew p hp).2)
  · rw [Estate.present_add] at hc
    rcases Multiset.mem_cons.mp hc with rfl | hc
    · trivial
    · exact hs.containers c hc
  · rw [hpools, hsrc]
    refine Multiset.nodup_add.mpr ⟨List.nodup_range', hs.distinct, Multiset.disjoint_left.mpr fun {k} hk hk' => ?_⟩
    have hlt := hs.known k hk'
    have hle := (List.mem_range'_1.mp hk).1
    omega
  · rw [hpools, Multiset.mem_add] at hk
    rw [Heap.size_addPools]
    rcases hk with hk | hk
    · exact (hmem.mp hk).2
    · exact Nat.lt_add_right _ (hs.known k hk)
  · rw [hpools, Multiset.mem_add, not_or] at hk
    rcases Nat.lt_or_ge k s.1.pools.size with hlt | hle
    · rw [Heap.pool_addPools_of_lt hlt]
      exact hs.idle k hk.2
    · have hout : s.1.pools.size + ps.length ≤ k := by
        by_contra hlt
        exact hk.1 (hmem.mpr ⟨hle, Nat.lt_of_not_le hlt⟩)
      rw [Heap.pool_of_le (by rwa [Heap.size_addPools])]
      rfl
  · rw [Heap.pool_addPools_of_lt (hs.known k ((hs.still_busy hk).mem))]
    exact hs.alike k hk

/-- Nobody works in the pools of a source that is not busy. -/
theorem not_busy (hs : Good foreign stray busy s₀ s claimed pending) {src : Source}
    (ho : s.2.container? o = some (.source src)) (hbusy : o ∉ busy) (hk : k ∈ src.poolNumbers) :
    ¬Busy busy s₀ k := by
  intro hb
  obtain ⟨o', ho', src', h1, h2⟩ := hs.still_busy hb
  have he := Estate.owner_unique hs.distinct ho h1 hk h2
  exact hbusy (he ▸ ho')

/-- The blocks of the pools of a source that is taken away are no longer in use. -/
theorem blocks_forget (hs : Good foreign stray busy s₀ s claimed pending) {src : Source}
    (ho : s.2.container? o = some (.source src)) :
    (s.2.forget o).blocks = s.2.blocks.filter fun b => ∀ k ∈ src.poolNumbers, b.pool ≠ some k := by
  have huses : ((s.2.forget o).uses : Multiset Use) =
      (s.2.uses : Multiset Use).filter fun u => u.owner ≠ o ∨ u.block.pool = none := (Multiset.filter_coe _ _).symm
  rw [Estate.blocks, Estate.blocks, Multiset.filter_map, huses]
  exact congrArg _ (Multiset.filter_congr fun u hu => hs.outlives_iff ho hu)

/-- **Dropping a source** that is not busy gives all its arenas back, and ends the use of their blocks. -/
theorem dropSource (hs : Good foreign stray busy s₀ s claimed pending) {src : Source}
    (ho : s.2.container? o = some (.source src)) (hbusy : o ∉ busy) :
    Good foreign stray busy s₀ (src.drop s.1, s.2.forget o) claimed pending := by
  obtain ⟨hpools, hregions, hpresent⟩ := Estate.forget_source ho
  obtain ⟨h1, h2, h3, h4⟩ := hs.heap.dropPools src.poolNumbers fun k hk => hs.unclaimed k (hs.not_busy ho hbusy hk)
  have hnodup := hs.distinct
  rw [hpools] at hnodup
  rw [Source.drop_eq]
  refine { heap := ?_, stray := h3.trans hs.stray, housed := hs.housed.of_pool fun k => ?_,
           containers := fun c hc => hs.containers c (hpresent c hc), distinct := (Multiset.nodup_add.mp hnodup).2.1,
           known := fun k hk => ?_, idle := fun k hk => ?_, uses := fun u hu => ?_, stays := fun o' ho' => ?_,
           alike := fun k hk => ?_, unclaimed := hs.unclaimed }
  · rw [hs.blocks_forget ho, hregions]
    exact h1
  · rw [h4 k]
    split
    · exact .inr Heap.vacant_sound.2
    · exact .inl rfl
  · rw [h2]
    exact hs.known k (by rw [hpools]; exact Multiset.mem_add.mpr (.inr hk))
  · rw [h4 k]
    split
    · rfl
    · rename_i hsrc
      refine hs.idle k ?_
      rw [hpools, Multiset.mem_add, not_or]
      exact ⟨hsrc, hk⟩
  · obtain ⟨hu, hkeep⟩ := List.mem_filter.mp hu
    by_cases howner : u.owner = o
    · refine .inr ⟨?_, by simpa [howner] using hkeep⟩
      rw [howner]
      exact Estate.getElem?_forget ho
    · exact (hs.uses u hu).stays (Estate.stays_put_of_ne howner _)
  · have hne : o' ≠ o := fun e => hbusy (e ▸ ho')
    exact (hs.stays o' ho').trans (Estate.stays_put_of_ne hne _)
  · rw [h4 k, if_neg fun hsrc => hs.not_busy ho hbusy hsrc hk]
    exact hs.alike k hk

/-! ## Calls -/

/-- An operation of one more source begins. -/
theorem enter (hs : Good foreign stray busy s₀ s claimed pending) (o : Nat) :
    Good foreign stray (o :: busy) s s claimed pending := by
  refine ⟨hs.toSound, fun o' _ => .refl _ o', fun k _ => .refl _, fun k hk => hs.unclaimed k fun hb => hk ?_⟩
  obtain ⟨o', ho', hsrc⟩ := hs.still_busy hb
  exact ⟨o', List.mem_cons_of_mem o ho', hsrc⟩

/-- An operation of a source has ended. -/
theorem leave (hs : Good foreign stray busy s₀ s claimed pending) {t : World}
    (ht : Good foreign stray (o :: busy) s t claimed pending') : Good foreign stray busy s₀ t claimed pending' := by
  refine ⟨ht.toSound, fun o' ho' => (hs.stays o' ho').trans (ht.stays o' (List.mem_cons_of_mem o ho')), fun k hk => ?_,
    hs.unclaimed⟩
  obtain ⟨o', ho', hsrc⟩ := hs.still_busy hk
  exact (hs.alike k hk).trans (ht.alike k ⟨o', List.mem_cons_of_mem o ho', hsrc⟩)

end Good

/-- Good worlds, as terms for calls. -/
def terms (foreign : Multiset Mapping) (stray : Nat) (busy : List Nat) (s₀ : World) : Terms Estate where
  Good s := Good foreign stray busy s₀ s
  blocks := Estate.blocks
  others e := e.regions + foreign
  Busy := Busy busy s₀
  heap hs := hs.heap
  settings hk hs ht := (hs.alike _ hk).symm.trans (ht.alike _ hk)
  step hs hh hp hspared := hs.withUses hh hp hs.uses hspared.claimed

end BlockHeap.World
