import BlockHeap.Proofs.Careless.Course
import BlockHeap.Proofs.Run.Start

/-!
# Slots are wasted only when they must be

Whatever is done with a pool by users who need not be careful is thrifty (`thrifty`): an allocation that ends has gone
its course, and a slot that it gave back was lost only if another one had been filled above it in the meantime
(`Course.ends`). Hence the last slot counted is filled whenever no operation is in progress, and an allocation that was
refused a mapping leaves the slots as they were unless an arena was published during it (`growths_thrifty`).
-/

namespace BlockHeap.Careless

open Call (OnCourse)

variable {k slot : Nat} {claimed : Nat → List Nat} {s : Scene} {c : Call Diary} {p : Pool}

/-! ## Ends of allocations -/

/-- An allocation that ends while no slot is claimed. -/
theorem Course.ends_settled (h : Course claimed k s (c, [])) {answer : Except Failure Nat}
    (hanswer : ∀ n error, answer ≠ .error (.error (.map n error))) : (s.finished (answer, c)).Thrifty k := by
  have hgrew : (s.1.pool k).Grew (s.finished (answer, c)).log (c.heap.pool k) := by
    cases h.progress with
    | settled hgrew => exact hgrew
  exact ⟨hgrew, fun _ _ _ _ hmem => absurd hmem (h.calm _ _ _ _), fun _ _ _ _ hmem => absurd hmem (h.calm _ _ _ _),
    fun n error he => absurd he (hanswer n error)⟩

/-- The pauses since a slot was claimed. -/
theorem during_eq {e : Ended} {early late : List Pause} (hsplit : e.pauses = early ++ late)
    (hearly : ∀ a ∈ early, (a.before.pool k).count ≤ slot) (hlate : ∀ b ∈ late, slot < (b.before.pool k).count) :
    e.during k slot = late := by
  have hnone : early.filter (fun a => decide (slot < (a.before.pool k).count)) = [] := by
    simpa using hearly
  have hall : late.filter (fun b => decide (slot < (b.before.pool k).count)) = late := by
    simpa using hlate
  rw [Ended.during, hsplit, List.filter_append, hnone, hall, List.nil_append]

/-- An allocation that ends by giving its slot back. -/
theorem Course.ends_refused (h : Course claimed k s (c, [slot])) (answer : Except Failure Nat) (policy : Policy)
    (blockSize : Nat) : (s.finished (answer, c.gaveBack k slot policy blockSize)).Thrifty k := by
  generalize he : s.finished (answer, c.gaveBack k slot policy blockSize) = e
  have hevents : e.events =
      c.events.toList ++ [.growthFailed policy blockSize slot ((c.heap.pool k).giveBack slot).1] := by
    rw [← he]
    exact c.events_gaveBack k slot policy blockSize
  have hpauses : e.pauses = c.rest.pauses := by
    rw [← he]
    exact congrArg Diary.pauses (c.rest_gaveBack k slot policy blockSize)
  have hafter : e.after.pool k = ((c.heap.pool k).giveBack slot).2 := by
    rw [← he, Scene.finished, Call.heap_gaveBack]
    exact Heap.pool_setPool_self (Heap.lt_size h.onCourse.limit_pos) _
  have hbefore : e.before = s.1 := by rw [← he, Scene.finished]
  -- the only growth that has failed is the last one
  have honly : ∀ {policy' blockSize' slot' givenBack}, .growthFailed policy' blockSize' slot' givenBack ∈ e.events →
      slot' = slot ∧ givenBack = ((c.heap.pool k).giveBack slot).1 := by
    intro policy' blockSize' slot' givenBack hmem
    rw [hevents] at hmem
    rcases List.mem_append.mp hmem with hmem | hmem
    · exact absurd hmem (h.calm _ _ _ _)
    · obtain ⟨-, -, hslot, hgiven⟩ := Event.growthFailed.inj (List.mem_singleton.mp hmem)
      exact ⟨hslot, hgiven⟩
  cases h.progress with
  | @growing q early late hsplit hearly hlate hgrew hlater =>
    have hsplit' : e.pauses = early ++ late := hpauses.trans hsplit
    have hduring := during_eq hsplit' hearly hlate
    refine ⟨?_, fun _ _ _ _ hmem => ?_, fun _ _ _ _ hmem i hi => ?_, fun _ _ _ =>
      ⟨policy, blockSize, q.count, ((c.heap.pool k).giveBack q.count).1, ?_⟩⟩
    · rw [hbefore, hafter]
      refine (hgrew.trans hlater.giveBack).congr fun i => ?_
      simp only [Ended.log, hsplit', hevents, logged_append, publishes_append, publishes_growthFailed, or_false]
      tauto
    · obtain ⟨rfl, rfl⟩ := honly hmem
      rw [hduring]
      exact hlater.giveBack_iff
    · obtain ⟨rfl, -⟩ := honly hmem
      rw [hduring] at hi
      exact hlater.above i hi
    · rw [hevents]
      exact List.mem_append_right _ List.mem_cons_self

/-- The scene after a thrifty allocation. -/
theorem Came.of_finished {r : Except Failure Nat × Call Diary} (hthrifty : (s.finished r).Thrifty k)
    (hlog : r.2.rest.log = s.2.log ++ logged r.2.rest.pauses)
    (hended : ∃ es, r.2.rest.ended = s.2.ended ++ es ∧ ∀ e ∈ es, e.Thrifty k) : Came k s (s.close r) := by
  obtain ⟨es, hes, hall⟩ := hended
  refine ⟨rfl, ⟨(s.finished r).log, ?_, hthrifty.grew⟩, ⟨es ++ [s.finished r], ?_, fun e he => ?_⟩⟩
  · rw [Ended.log, ← List.append_assoc]
    exact congrArg (· ++ _) hlog
  · rw [← List.append_assoc]
    exact congrArg (· ++ _) hes
  · rcases List.mem_append.mp he with he | he
    · exact hall e he
    · rw [List.mem_singleton.mp he]
      exact hthrifty

/-- **An allocation that ends** was thrifty. -/
theorem Course.ends (h : Course claimed k s (c, [])) {r : Except Failure Nat × Call Diary} (hends : Call.Ends k c r) :
    Came k s (s.close r) := by
  cases hends with
  | block hpath =>
    have h' := h.path hpath
    exact .of_finished (h'.ends_settled fun _ _ he => nomatch he) h'.log h'.ended
  | exhausted hpath =>
    have h' := h.path hpath
    exact .of_finished (h'.ends_settled fun _ _ he => nomatch he) h'.log h'.ended
  | @refused n slot size e policy c' hpath =>
    have h' := h.path hpath
    refine .of_finished (h'.ends_refused _ policy size) ?_ ?_
    · rw [Call.rest_gaveBack]
      exact h'.log
    · rw [Call.rest_gaveBack]
      exact h'.ended

/-- An allocation begins. -/
theorem Course.start (hr : s.1.Regular claimed) {ds : List (Decision Diary)} {fs : List (Interlude Diary)}
    (hds : ∀ d ∈ ds, Scene.Pausing (Thrifty k) d.meanwhile) (hfs : ∀ f ∈ fs, Scene.Pausing (Thrifty k) f) :
    Course claimed k s (s.enter ds fs, []) := by
  have hfair : Call.Fair nothing (Scene.enter s ds fs) :=
    ⟨trivial, fun d hd => Thrifty.lawful (hds d hd), fun f hf => Thrifty.lawful (hfs f hf)⟩
  exact ⟨hfair.onCourse hr k, hds, hfs, (List.append_nil _).symm, ⟨[], (List.append_nil _).symm, by simp⟩,
    fun _ ha => (nomatch ha), fun _ _ _ _ hmem => (nomatch hmem), .settled (.of_steady (.refl _) publishes_nil)⟩

/-- **Everything that is done with a pool is thrifty.** -/
theorem thrifty (k : Nat) : Inherited (.pool k) (Thrifty k) where
  nil s claimed _ := ⟨.refl _ _, .refl k s⟩
  comp hf hg s claimed hr := by
    obtain ⟨hl, hcame⟩ := hf s claimed hr
    obtain ⟨hl', hcame'⟩ := hg _ claimed (hl.regular hr)
    exact ⟨hl.trans hl', hcame.trans hcame'⟩
  allocate bytes ds fs hds hfs s claimed hr := by
    have hcourse := Course.start hr hds hfs
    have hends := hcourse.onCourse.allocate_ends
    exact ⟨(hends.led hcourse.onCourse).1, hcourse.ends hends⟩
  deallocate address bytes s claimed hr := by
    have hled : Call.Led nothing claimed (Call.alone s.1 s.look.2) _ := Call.deallocate_led trivial hr k address
    have hsteady := Call.withPool_steady (c := Call.alone s.1 s.look.2)
      (Pool.deallocate_steady (s.1.pool k) address)
    rw [Call.deallocate, Call.onPool_eq] at hled
    have hrun : s.look.giveBack (.pool k) address bytes =
        Scene.look (s.1.setPool k ((s.1.pool k).deallocate address).2, s.look.2) := by
      rw [Scene.giveBack, Source.deallocate, Call.deallocate, Call.onPool_eq]
      simp [Call.alone, Scene.look]
    dsimp only
    rw [hrun]
    exact ⟨hled.1, rfl, ⟨[], (List.append_nil _).symm, .of_steady hsteady publishes_nil⟩,
      ⟨[], (List.append_nil _).symm, by simp⟩⟩

end BlockHeap.Careless

namespace BlockHeap

open Careless

/-- No slot is counted in a fresh heap. -/
theorem Heap.Fresh.count_eq {h : Heap} (h' : h.Fresh) (k : Nat) : (h.pool k).count = 0 := by
  rcases Nat.lt_or_ge k h.pools.size with hk | hk
  · exact (h'.pool_start hk).1
  · rw [Heap.pool_of_le hk]
    rfl

/-- **Slots are wasted only when they must be**, in each careless run with a pool from a fresh heap. When no operation
is in progress, the last slot counted is filled, if any is counted. Where the growth of a slot has failed, the slot is
lost if and only if another one was filled while it was claimed, which is then a later one. And an allocation that was
refused a mapping ended with such a growth, and leaves the count and the filled slots as they were unless an arena was
published in the meantime. -/
theorem growths_thrifty {h : Heap} (h' : h.Fresh) (k : Nat) (acts : List Careless.Act) :
    ((actAll (.pool k) acts (Scene.start h)).1.pool k).LastFilled ∧
    ∀ e ∈ (actAll (.pool k) acts (Scene.start h)).2.ended,
      (∀ policy blockSize slot givenBack, .growthFailed policy blockSize slot givenBack ∈ e.events →
        (givenBack = false ↔ ∃ i, Publishes (logged (e.during k slot)) i) ∧
        ∀ i, Publishes (logged (e.during k slot)) i → slot < i) ∧
      ∀ n error, e.answer = .error (.error (.map n error)) →
        (∃ policy blockSize slot givenBack, .growthFailed policy blockSize slot givenBack ∈ e.events) ∧
        ((∀ i, ¬Publishes e.log i) → (e.after.pool k).count = (e.before.pool k).count ∧
          ∀ i, ((e.after.pool k).slot? i).isSome = ((e.before.pool k).slot? i).isSome) := by
  obtain ⟨-, hcame⟩ := (thrifty k).of_acts acts (Scene.start h) _ h'.regular
  obtain ⟨events, -, hgrew⟩ := hcame.grew
  obtain ⟨es, hended, hes⟩ := hcame.ended
  refine ⟨hgrew.lastFilled (h'.count_eq k), fun e he => ?_⟩
  rw [hended] at he
  have hthrifty : e.Thrifty k := hes e he
  refine ⟨fun policy blockSize slot givenBack hmem => ⟨?_, ?_⟩, fun n error hanswer => ⟨?_, fun hno => ?_⟩⟩
  · exact hthrifty.lost_iff policy blockSize slot givenBack hmem
  · exact hthrifty.above policy blockSize slot givenBack hmem
  · exact hthrifty.told n error hanswer
  · exact hthrifty.grew.unchanged hno

/-- While an allocation waits for the mapping of its arena, another one makes the pool grow; then the mapping is
refused. -/
def bypassedRun : List Careless.Act := [.allocate 0 [.mk [.allocate 0 [] []] true] []]

/-- In `bypassedRun` the slot of the first growth is lost, as the second one has filled the slot above it. -/
theorem growths_thrifty_bypassed : (Registry.startHeap .standard .shared).Fresh ∧
    ((actAll (.pool 19) bypassedRun (Scene.start (Registry.startHeap .standard .shared))).1.pool 19).count = 2 ∧
    ((actAll (.pool 19) bypassedRun (Scene.start (Registry.startHeap .standard .shared))).1.pool 19).LastFilled ∧
    ∃ e ∈ (actAll (.pool 19) bypassedRun (Scene.start (Registry.startHeap .standard .shared))).2.ended,
      .growthFailed .shared SizeClass.greatest 0 false ∈ e.events ∧
      ∃ i, Publishes (logged (e.during 19 0)) i ∧ 0 < i := by
  have hfresh := Registry.create_fresh Os.standard_sound .shared
  obtain ⟨hlast, hends⟩ := growths_thrifty hfresh 19 bypassedRun
  have hcount : ((actAll (.pool 19) bypassedRun
      (Scene.start (Registry.startHeap .standard .shared))).1.pool 19).count = 2 := by
    decide +kernel
  have hfailed : ∃ e ∈ (actAll (.pool 19) bypassedRun (Scene.start (Registry.startHeap .standard .shared))).2.ended,
      .growthFailed .shared SizeClass.greatest 0 false ∈ e.events := by
    decide +kernel
  obtain ⟨e, he, hmem⟩ := hfailed
  obtain ⟨hlost, habove⟩ := (hends e he).1 _ _ _ _ hmem
  obtain ⟨i, hi⟩ := hlost.mp rfl
  exact ⟨hfresh, hcount, hlast, e, he, hmem, i, hi, habove i hi⟩

end BlockHeap
