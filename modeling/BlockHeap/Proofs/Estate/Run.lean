import BlockHeap.Proofs.Estate.Sound

/-!
# Runs keep a world good

Each deed keeps a world good, whatever operations are in progress around it, and so does a list of deeds
(`Deed.run_good`, `Deed.runAll_good`). The deeds that others carry out during an allocation find its source busy; that
they leave it alone is what the allocation relies on.
-/

namespace BlockHeap

variable {foreign : Multiset Mapping} {stray : Nat} {busy : List Nat} {s₀ s : World} {claimed : Nat → List Nat}
  {pending : Multiset Mapping} {o : Nat}

namespace World

/-! ## Single deeds -/

namespace Good

/-- **Making an arena** adds it, or nothing. -/
theorem makeArena {c : Call Estate} (hc : c.Keeps (terms foreign stray busy s₀) claimed pending) (policy : Policy)
    (blockSize : Nat) : Good foreign stray busy s₀ (keepArena (c.mapArena policy blockSize)) claimed pending := by
  cases hg : Arena.Geometry.ofBlockSize blockSize with
  | error f =>
    rw [Call.mapArena, hg]
    exact hc.good
  | ok g =>
    rcases hc.mapArena_spec policy hg with ⟨a, c', h1, h2, h3, h4, -⟩ | ⟨e, c', h1, h2⟩
    · rw [h1]
      exact addArena h2.good h3 h4
    · rw [h1]
      exact h2.good

/-- **Making a pool** adds it, unless its settings are not allowed. -/
theorem makePool (hs : Good foreign stray busy s₀ s claimed pending) (policy : Policy)
    (changes : List Pool.Settings.Change) :
    Good foreign stray busy s₀ (s.makePool policy changes) claimed pending := by
  rw [World.makePool]
  split
  · rename_i p hp
    cases hall : Pool.Settings.empty.changeAll changes with
    | error f =>
      rw [hall] at hp
      cases hp
    | ok t =>
      rw [hall] at hp
      refine hs.addSource (fun q hq => ?_) rfl
      rw [List.mem_singleton.mp hq]
      exact ⟨t, policy, Pool.Settings.valid_empty.changeAll hall, hp⟩
  · exact hs

/-- **Making a registry** adds it. -/
theorem makeRegistry (hs : Good foreign stray busy s₀ s claimed pending) (policy : Policy) :
    Good foreign stray busy s₀ (s.makeRegistry policy) claimed pending := by
  rw [World.makeRegistry, Registry.create, Registry.freshPools_eq]
  refine hs.addSource (Registry.classPools_built policy) ?_
  rw [List.length_map, List.length_range, List.range'_eq_map_range]
  rfl

theorem takeFromArena (hs : Good foreign stray busy s₀ s claimed pending) {a : Arena} {live : List Nat}
    (ho : s.2.container? o = some (.arena a live)) :
    Good foreign stray busy s₀ (s.takeFromArena o a live) claimed pending := by
  obtain ⟨hheld, g, hg⟩ := hs.containers _ (Estate.mem_present ho)
  rw [World.takeFromArena]
  rcases hg.allocate_spec with ⟨i, a', h1, -, h2, h3, h4, h5⟩ | ⟨a', h1, -, h3, h4, h5⟩
  · rw [h1]
    refine hs.changeArena ho h3 h5 ?_
    rw [h5.held_insert h2 h4, hheld, Multiset.cons_coe]
  · rw [h1]
    exact hs.changeArena ho h3 h5 ((h5.held_eq h4).trans hheld)

theorem giveToArena (hs : Good foreign stray busy s₀ s claimed pending) {a : Arena} {live : List Nat}
    (ho : s.2.container? o = some (.arena a live)) (i : Nat) :
    Good foreign stray busy s₀ (s.giveToArena o a live i) claimed pending := by
  obtain ⟨hheld, g, hg⟩ := hs.containers _ (Estate.mem_present ho)
  rw [World.giveToArena]
  split
  · exact hs
  · rename_i x hx
    obtain ⟨hlen, hget⟩ := List.getElem?_eq_some_iff.mp hx
    have hlive : a.held = x ::ₘ (live.eraseIdx i : Multiset Nat) := by
      rw [hheld, coe_eq_cons_eraseIdx hlen, hget]
    obtain ⟨j, hj, rfl⟩ := Arena.Sound.mem_held.mp (hlive ▸ Multiset.mem_cons_self x _)
    obtain ⟨a', h1, h2, h3, h4⟩ := hg.deallocate_spec hj
    rw [h1]
    refine hs.changeArena ho h2 h4 ?_
    rw [h4.held_erase hj h3] at hlive
    exact (Multiset.cons_inj_right _).mp hlive

/-- **An allocation from a source** that stays ends with one more block, or none. -/
theorem settle {src : Source} {bytes : Nat} {r : Except Failure Nat × Call Estate} (ho : o ∈ busy)
    (hsrc : s₀.2.container? o = some (.source src))
    (hr : Call.Ended (terms foreign stray busy s₀) (src.poolOf bytes) bytes claimed pending r) :
    Good foreign stray busy s₀ (settle o src bytes r) claimed pending := by
  cases hr with
  | nothing hgood => exact hgood
  | stalled hgood => exact hgood
  | @block x c h before hgood hproper _ hsound =>
    refine withUses hgood hsound hproper (fun u hu => ?_) fun _ _ => rfl
    rcases List.mem_cons.mp hu with rfl | hu
    · exact .inl ⟨src, (hgood.stays o ho).source hsrc, rfl⟩
    · exact hgood.uses u hu

theorem giveToSource (hs : Good foreign stray busy s₀ s claimed pending) {src : Source}
    (ho : s.2.container? o = some (.source src)) (i bytes : Nat) :
    Good foreign stray busy s₀ (s.giveToSource o src i bytes) claimed pending := by
  rw [World.giveToSource]
  split
  · exact hs
  · rename_i u hu
    split
    · rename_i hallowed
      obtain ⟨rfl, hbytes⟩ := hallowed
      obtain ⟨hlen, hget⟩ := List.getElem?_eq_some_iff.mp hu
      have hpool : u.block.pool = src.poolOf u.block.bytes := by
        rcases hs.uses u (List.mem_of_getElem? hu) with ⟨src', h1, h2⟩ | ⟨h1, -⟩
        · rw [h1] at ho
          cases ho
          exact h2
        · rw [Estate.container?_eq, h1] at ho
          cases ho
      have hheap := hs.heap
      rw [Estate.blocks, coe_eq_cons_eraseIdx hlen, hget, Multiset.map_cons] at hheap
      obtain ⟨c, h1, h2, -, h3, h4⟩ := hheap.source_deallocate hpool hbytes s.2
      rw [h1]
      dsimp only
      rw [h2]
      exact hs.withUses h4 h3 (fun v hv => hs.uses v (List.mem_of_mem_eraseIdx hv)) fun _ _ => rfl
    · exact hs

theorem giveBack (hs : Good foreign stray busy s₀ s claimed pending) (o i bytes : Nat) :
    Good foreign stray busy s₀ (s.giveBack o i bytes) claimed pending := by
  rw [World.giveBack]
  split
  · exact hs
  · rename_i a live ho
    exact hs.giveToArena ho i
  · rename_i src ho
    exact hs.giveToSource ho i bytes

theorem drop (hs : Good foreign stray busy s₀ s claimed pending) (o : Nat) :
    Good foreign stray busy s₀ (s.drop busy o) claimed pending := by
  rw [World.drop]
  split
  · exact hs
  · rename_i hbusy
    split
    · exact hs
    · rename_i a live ho
      exact hs.dropArena ho
    · rename_i src ho
      exact hs.dropSource ho hbusy

end Good

end World

/-! ## Runs -/

-- one induction over deeds, answers and lists of both
mutual

/-- **A deed keeps a world good.** -/
theorem Deed.run_good (d : Deed) : ∀ {busy : List Nat} {s₀ s : World} {claimed : Nat → List Nat}
    {pending : Multiset Mapping}, World.Good foreign stray busy s₀ s claimed pending →
    World.Good foreign stray busy s₀ (d.run busy s) claimed pending := by
  intro busy s₀ s claimed pending hs
  cases d with
  | makeArena policy blockSize maps =>
    rw [Deed.run]
    have hc : Call.Keeps (World.terms foreign stray busy s₀) ⟨s.1, s.2, Deed.decisions busy maps, [], #[]⟩ claimed
        pending := ⟨hs, Deed.decisions_orderly maps, fun _ hf => nomatch hf⟩
    exact World.Good.makeArena hc policy blockSize
  | makePool policy changes =>
    rw [Deed.run]
    exact hs.makePool policy changes
  | makeRegistry policy =>
    rw [Deed.run]
    exact hs.makeRegistry policy
  | allocate o bytes maps grown =>
    rw [Deed.run]
    split
    · exact hs
    · rename_i a live ho
      exact hs.takeFromArena ho
    · rename_i src ho
      -- the source is busy from now on, so that nobody drops it
      have hc : Call.Keeps (World.terms foreign stray (o :: busy) s)
          ⟨s.1, s.2, Deed.decisions (o :: busy) maps, Deed.interludes (o :: busy) grown, #[]⟩ claimed pending :=
        ⟨hs.enter o, Deed.decisions_orderly maps, Deed.interludes_orderly grown⟩
      have hended := hc.source_allocate src bytes fun k hk =>
        ⟨o, List.mem_cons_self, src, ho, Source.poolOf_mem hk⟩
      exact hs.leave (World.Good.settle List.mem_cons_self ho hended)
  | deallocate o i bytes =>
    rw [Deed.run]
    exact hs.giveBack o i bytes
  | drop o =>
    rw [Deed.run]
    exact hs.drop o

/-- **A run keeps a world good.** -/
theorem Deed.runAll_good (ds : List Deed) : ∀ {busy : List Nat} {s₀ s : World} {claimed : Nat → List Nat}
    {pending : Multiset Mapping}, World.Good foreign stray busy s₀ s claimed pending →
    World.Good foreign stray busy s₀ (Deed.runAll busy ds s) claimed pending := by
  intro busy s₀ s claimed pending hs
  cases ds with
  | nil =>
    rw [Deed.runAll]
    exact hs
  | cons d ds =>
    rw [Deed.runAll]
    exact Deed.runAll_good ds (d.run_good hs)

theorem Response.decision_orderly (r : Response) : ∀ {busy : List Nat} {s₀ : World},
    (World.terms foreign stray busy s₀).Orderly (r.decision busy).meanwhile := by
  intro busy s₀
  cases r with
  | mk meanwhile refuse =>
    rw [Response.decision]
    exact fun s claimed pending hs => Deed.runAll_good meanwhile hs

theorem Deed.decisions_orderly (rs : List Response) : ∀ {busy : List Nat} {s₀ : World},
    ∀ d ∈ Deed.decisions busy rs, (World.terms foreign stray busy s₀).Orderly d.meanwhile := by
  intro busy s₀
  cases rs with
  | nil =>
    rw [Deed.decisions]
    intro d hd
    cases hd
  | cons r rs =>
    rw [Deed.decisions]
    intro d hd
    rcases List.mem_cons.mp hd with rfl | hd
    · exact r.decision_orderly
    · exact Deed.decisions_orderly rs d hd

theorem Deed.interludes_orderly (grown : List (List Deed)) : ∀ {busy : List Nat} {s₀ : World},
    ∀ f ∈ Deed.interludes busy grown, (World.terms foreign stray busy s₀).Orderly f := by
  intro busy s₀
  cases grown with
  | nil =>
    rw [Deed.interludes]
    intro f hf
    cases hf
  | cons ds rest =>
    rw [Deed.interludes]
    intro f hf
    rcases List.mem_cons.mp hf with rfl | hf
    · exact fun s claimed pending hs => Deed.runAll_good ds hs
    · exact Deed.interludes_orderly rest f hf

end

end BlockHeap
