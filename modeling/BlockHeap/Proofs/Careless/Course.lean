import BlockHeap.Proofs.Careless.Basic
import BlockHeap.Proofs.Pool.Grew

/-!
# The growths of one allocation

What others do is *thrifty* when it leads the heap on, the pool grows by what is logged (`Pool.Grew`), and each
allocation that ends meanwhile wasted no slot without need (`Ended.Thrifty`).

An allocation is followed along its path, while all others are thrifty. Its `Course` tells how far the pool has grown:
as long as no slot is claimed, by all that was logged since the allocation began; and while one is, by what was logged
before the claim, and from there on by what was logged in the pauses since. These are the pauses that begin with more
slots counted than the claimed one was when it was the next. One step keeps this up (`Course.step`), and so does a path
(`Course.path`).
-/

namespace BlockHeap.Careless

open Call (OnCourse)

variable {k : Nat} {claimed : Nat → List Nat} {s t u : Scene} {held : List Nat}

/-- What was logged in pauses. -/
def logged (ps : List Pause) : List Event := ps.flatMap (·.events)

@[simp] theorem logged_append (ps qs : List Pause) : logged (ps ++ qs) = logged ps ++ logged qs := by
  simp [logged]

@[simp] theorem logged_singleton (p : Pause) : logged [p] = p.events := by simp [logged]

namespace Ended

/-- What was logged from the beginning to the end of an allocation, by itself and by others. -/
def log (e : Ended) : List Event := logged e.pauses ++ e.events

/-- The pauses of an allocation in which a slot of pool `k` was claimed for it. -/
def during (e : Ended) (k slot : Nat) : List Pause := e.pauses.filter fun p => slot < (p.before.pool k).count

/-- The pool grew by what was logged; and where a growth failed, its slot is lost only if another one was filled while
it was claimed, which is then a later one. -/
structure Thrifty (k : Nat) (e : Ended) : Prop where
  grew : (e.before.pool k).Grew e.log (e.after.pool k)
  lost_iff : ∀ policy blockSize slot givenBack, .growthFailed policy blockSize slot givenBack ∈ e.events →
    (givenBack = false ↔ ∃ i, Publishes (logged (e.during k slot)) i)
  above : ∀ policy blockSize slot givenBack, .growthFailed policy blockSize slot givenBack ∈ e.events →
    ∀ i, Publishes (logged (e.during k slot)) i → slot < i
  told : ∀ n error, e.answer = .error (.error (.map n error)) →
    ∃ policy blockSize slot givenBack, .growthFailed policy blockSize slot givenBack ∈ e.events

end Ended

/-- Whole operations on pool `k`, all of them thrifty, lead from one scene to another. -/
structure Came (k : Nat) (s t : Scene) : Prop where
  pauses : t.2.pauses = s.2.pauses
  grew : ∃ events, t.2.log = s.2.log ++ events ∧ (s.1.pool k).Grew events (t.1.pool k)
  ended : ∃ es, t.2.ended = s.2.ended ++ es ∧ ∀ e ∈ es, e.Thrifty k

theorem Came.refl (k : Nat) (s : Scene) : Came k s s :=
  ⟨rfl, ⟨[], (List.append_nil _).symm, .of_steady (.refl _) publishes_nil⟩,
    ⟨[], (List.append_nil _).symm, fun _ he => nomatch he⟩⟩

theorem Came.trans (h : Came k s t) (h' : Came k t u) : Came k s u := by
  obtain ⟨events, hlog, hgrew⟩ := h.grew
  obtain ⟨events', hlog', hgrew'⟩ := h'.grew
  obtain ⟨es, hended, hes⟩ := h.ended
  obtain ⟨es', hended', hes'⟩ := h'.ended
  refine ⟨h'.pauses.trans h.pauses, ⟨events ++ events', ?_, hgrew.trans hgrew'⟩, ⟨es ++ es', ?_, fun e he => ?_⟩⟩
  · rw [hlog', hlog, List.append_assoc]
  · rw [hended', hended, List.append_assoc]
  · exact (List.mem_append.mp he).elim (hes e) (hes' e)

/-- The interlude leads the heap on, by thrifty operations. -/
def Thrifty (k : Nat) (f : Interlude Diary) : Prop :=
  ∀ (s : Scene) (claimed : Nat → List Nat), s.1.Regular claimed →
    s.1.Leads claimed (f s).1 claimed ∧ Came k s (f s)

/-- A pause `p` of a call leads from one scene to another, by thrifty operations of others. -/
structure Paused (k : Nat) (s t : Scene) (p : Pause) : Prop where
  before : p.before = s.1
  pauses : t.2.pauses = s.2.pauses ++ [p]
  log : t.2.log = s.2.log ++ p.events
  grew : (s.1.pool k).Grew p.events (t.1.pool k)
  ended : ∃ es, t.2.ended = s.2.ended ++ es ∧ ∀ e ∈ es, e.Thrifty k

theorem Thrifty.paused {f : Interlude Diary} (hf : Scene.Pausing (Thrifty k) f) (hr : s.1.Regular claimed) :
    s.1.Leads claimed (f s).1 claimed ∧ ∃ p, Paused k s (f s) p := by
  obtain ⟨g, hg, rfl⟩ := hf
  obtain ⟨hl, hcame⟩ := hg (Scene.look (s.1, { s.2 with log := [] })) claimed hr
  refine ⟨hl, _, rfl, rfl, rfl, ?_, hcame.ended⟩
  obtain ⟨events, hlog, hgrew⟩ := hcame.grew
  exact hgrew.congr fun i => iff_of_eq (congrArg (Publishes · i) hlog)

/-- Nothing is agreed upon. -/
def nothing : Pact Diary := ⟨fun _ => True, fun _ _ _ => trivial⟩

/-- What others do is lawful. -/
theorem Thrifty.lawful {f : Interlude Diary} (hf : Scene.Pausing (Thrifty k) f) : nothing.Lawful f :=
  fun _ _ hr _ => ⟨(Thrifty.paused hf hr).1, trivial⟩

/-! ## One allocation -/

/-- How far pool `k`, first `p`, has grown in the course of an allocation. -/
inductive Progress (k : Nat) (p : Pool) (c : Call Diary) : List Nat → Prop where
  /-- No slot is claimed. -/
  | settled (h : p.Grew (logged c.rest.pauses ++ c.events.toList) (c.heap.pool k)) : Progress k p c []
  /-- The slot that was the next one in `q` is claimed. -/
  | growing {q : Pool} {early late : List Pause} (hsplit : c.rest.pauses = early ++ late)
    (hearly : ∀ a ∈ early, (a.before.pool k).count ≤ q.count)
    (hlate : ∀ b ∈ late, q.count < (b.before.pool k).count)
    (hbefore : p.Grew (logged early ++ c.events.toList) q)
    (hafter : q.claimNext.Grew (logged late) (c.heap.pool k)) : Progress k p c [q.count]

/-- How an allocation from pool `k`, which began in scene `s`, has gone so far. -/
structure Course (claimed : Nat → List Nat) (k : Nat) (s : Scene) (x : Call Diary × List Nat) : Prop where
  onCourse : OnCourse nothing claimed k x
  decisions : ∀ d ∈ x.1.decisions, Scene.Pausing (Thrifty k) d.meanwhile
  growths : ∀ f ∈ x.1.growths, Scene.Pausing (Thrifty k) f
  log : x.1.rest.log = s.2.log ++ logged x.1.rest.pauses
  ended : ∃ es, x.1.rest.ended = s.2.ended ++ es ∧ ∀ e ∈ es, e.Thrifty k
  counts : ∀ a ∈ x.1.rest.pauses, (a.before.pool k).count ≤ (x.1.heap.pool k).count
  /-- No growth has failed. -/
  calm : ∀ policy blockSize slot givenBack, .growthFailed policy blockSize slot givenBack ∉ x.1.events.toList
  progress : Progress k (s.1.pool k) x.1 x.2

variable {c c' : Call Diary} {x y : Call Diary × List Nat} {p : Pool}

/-- Work in the arenas of the pool, and events that tell of no growth. -/
theorem Progress.steady (h : Progress k p c held) (hs : (c.heap.pool k).Steady (c'.heap.pool k))
    (hrest : c'.rest = c.rest) {events : List Event} (hevents : c'.events.toList = c.events.toList ++ events)
    (hno : ∀ i, ¬Publishes events i) : Progress k p c' held := by
  cases h with
  | settled h =>
    refine .settled ((h.steady hs).congr fun i => ?_)
    simp [hrest, hevents, hno i]
  | growing hsplit hearly hlate hbefore hafter =>
    refine .growing (hrest ▸ hsplit) hearly hlate (hbefore.congr fun i => ?_) (hafter.steady hs)
    simp [hevents, hno i]

/-- A pause: others have done something. -/
theorem Progress.pause {others : Pause} (h : Progress k p c held)
    (hpaused : Paused k (c.heap, c.rest) (c'.heap, c'.rest) others) (hevents : c'.events = c.events) :
    Progress k p c' held := by
  have hpauses : c'.rest.pauses = c.rest.pauses ++ [others] := hpaused.pauses
  cases h with
  | settled h =>
    refine .settled ((h.trans hpaused.grew).congr fun i => ?_)
    simp only [hpauses, hevents, logged_append, logged_singleton, publishes_append]
    tauto
  | @growing q early late hsplit hearly hlate hbefore hafter =>
    have hlt : q.count < (c.heap.pool k).count := hafter.count_le
    have hnow : q.claimNext.Grew (logged (late ++ [others])) (c'.heap.pool k) := by
      rw [logged_append, logged_singleton]
      exact hafter.trans hpaused.grew
    refine .growing ?_ hearly (fun b hb => ?_) (hevents ▸ hbefore) hnow
    · rw [hpauses, hsplit, List.append_assoc]
    · rcases List.mem_append.mp hb with hb | hb
      · exact hlate b hb
      · rw [List.mem_singleton.mp hb, hpaused.before]
        exact hlt

/-- **A pause** in the course of an allocation. -/
theorem Course.pause (h : Course claimed k s (c, held)) {f : Interlude Diary} (hf : Scene.Pausing (Thrifty k) f)
    (hscene : (c'.heap, c'.rest) = f (c.heap, c.rest)) (hdecisions : c'.decisions ⊆ c.decisions)
    (hgrowths : c'.growths ⊆ c.growths) (hevents : c'.events = c.events)
    (hcourse : OnCourse nothing claimed k (c', held)) : Course claimed k s (c', held) := by
  obtain ⟨-, others, hpaused⟩ := Thrifty.paused (s := (c.heap, c.rest)) hf h.onCourse.regular
  rw [← hscene] at hpaused
  have hpauses : c'.rest.pauses = c.rest.pauses ++ [others] := hpaused.pauses
  have hlog : c'.rest.log = c.rest.log ++ others.events := hpaused.log
  obtain ⟨es, hended, hes⟩ := hpaused.ended
  obtain ⟨es', hended', hes'⟩ := h.ended
  refine ⟨hcourse, fun d hd => h.decisions d (hdecisions hd), fun f hf => h.growths f (hgrowths hf), ?_,
    ⟨es' ++ es, ?_, fun e he => (List.mem_append.mp he).elim (hes' e) (hes e)⟩, fun a ha => ?_, hevents ▸ h.calm,
    h.progress.pause hpaused hevents⟩
  · rw [hlog, h.log, hpauses, logged_append, logged_singleton, List.append_assoc]
  · rw [← List.append_assoc, ← hended']
    exact hended
  · have hle : (c.heap.pool k).count ≤ (c'.heap.pool k).count := hpaused.grew.count_le
    rw [hpauses] at ha
    rcases List.mem_append.mp ha with ha | ha
    · exact Nat.le_trans (h.counts a ha) hle
    · rw [List.mem_singleton.mp ha, hpaused.before]
      exact hle

/-- Work in the arenas of the pool, in the course of an allocation. -/
theorem Course.steady (h : Course claimed k s (c, held)) (hs : (c.heap.pool k).Steady (c'.heap.pool k))
    (hrest : c'.rest = c.rest) (hdecisions : c'.decisions = c.decisions) (hgrowths : c'.growths = c.growths)
    {events : List Event} (hevents : c'.events.toList = c.events.toList ++ events)
    (hno : ∀ e ∈ events, e.slot? = none) (hcourse : OnCourse nothing claimed k (c', held)) :
    Course claimed k s (c', held) := by
  have hpublishes : ∀ i, ¬Publishes events i := by
    rintro i ⟨policy, blockSize, hmem⟩
    cases hno _ hmem
  refine ⟨hcourse, hdecisions ▸ h.decisions, hgrowths ▸ h.growths, hrest ▸ h.log, hrest ▸ h.ended, ?_, ?_,
    h.progress.steady hs hrest hevents hpublishes⟩
  · rw [hrest, hs.count]
    exact h.counts
  · intro policy blockSize slot givenBack hmem
    rw [hevents] at hmem
    rcases List.mem_append.mp hmem with hmem | hmem
    · exact h.calm _ _ _ _ hmem
    · cases hno _ hmem

/-- The next slot is claimed, in the course of an allocation. -/
theorem Course.claim (h : Course claimed k s (c, [])) (hk : k < c.heap.pools.size)
    (hcourse : OnCourse nothing claimed k (c.withPool k (c.heap.pool k).claimNext, [(c.heap.pool k).count])) :
    Course claimed k s (c.withPool k (c.heap.pool k).claimNext, [(c.heap.pool k).count]) := by
  have hpool : (c.withPool k (c.heap.pool k).claimNext).heap.pool k = (c.heap.pool k).claimNext :=
    Heap.pool_setPool_self hk _
  refine ⟨hcourse, h.decisions, h.growths, h.log, h.ended, fun a ha => ?_, h.calm, ?_⟩
  · exact (Nat.le_succ_of_le (h.counts a ha)).trans_eq (congrArg Pool.count hpool).symm
  · cases h.progress with
    | settled hgrew =>
      have hnow : (c.heap.pool k).claimNext.Grew (logged [])
          ((c.withPool k (c.heap.pool k).claimNext).heap.pool k) := by
        rw [hpool]
        exact .of_steady (.refl _) publishes_nil
      exact .growing (List.append_nil _).symm h.counts (fun _ hb => nomatch hb) hgrew hnow

/-- A new arena is put into the claimed slot, in the course of an allocation. -/
theorem Course.publish {slot : Nat} (h : Course claimed k s (c, [slot])) (r : Resident Arena) (policy : Policy)
    (blockSize : Nat) (hevents : c'.events.toList = c.events.toList ++ [.poolGrew policy blockSize slot])
    (hheap : c'.heap.pool k = (c.heap.pool k).publish slot r) (hrest : c'.rest = c.rest)
    (hdecisions : c'.decisions = c.decisions) (hgrowths : c'.growths = c.growths)
    (hcourse : OnCourse nothing claimed k (c', [])) : Course claimed k s (c', []) := by
  have hslots := (h.onCourse.regular.pools k).slots
  rw [holding_self] at hslots
  have hcap : slot < Pool.capacity := hslots.held_lt_capacity List.mem_cons_self
  refine ⟨hcourse, hdecisions ▸ h.decisions, hgrowths ▸ h.growths, hrest ▸ h.log, hrest ▸ h.ended, ?_, ?_, ?_⟩
  · intro a ha
    rw [hrest] at ha
    exact (h.counts a ha).trans_eq (congrArg Pool.count hheap).symm
  · intro policy' blockSize' slot' givenBack hmem
    rw [hevents] at hmem
    rcases List.mem_append.mp hmem with hmem | hmem
    · exact h.calm _ _ _ _ hmem
    · cases List.mem_singleton.mp hmem
  · cases h.progress with
    | @growing q early late hsplit hearly hlate hbefore hafter =>
      have hsplit' : c.rest.pauses = early ++ late := hsplit
      have hgrew := hbefore.trans (hafter.publish hcap r policy blockSize)
      rw [← hheap] at hgrew
      refine .settled (hgrew.congr fun i => ?_)
      simp only [hevents, hrest, hsplit', logged_append, publishes_append]
      tauto

/-- **One step** keeps the course of an allocation. -/
theorem Course.step (h : Course claimed k s x) (hstep : Call.Step k x y) : Course claimed k s y := by
  have hcourse := (hstep.keeps h.onCourse).1
  cases hstep with
  | @meanwhile c held d ds hd =>
    have hsub : ds ⊆ c.decisions := by simp [hd]
    exact h.pause (h.decisions d (by simp [hd])) rfl hsub (List.Subset.refl _) rfl hcourse
  | @grown c held f fs hf =>
    have hsub : fs ⊆ c.growths := by simp [hf]
    exact h.pause (h.growths f (by simp [hf])) rfl (List.Subset.refl _) hsub rfl hcourse
  | answer c held memory hos => exact h.steady (.refl _) rfl rfl rfl (List.append_nil _).symm (by simp) hcourse
  | @log c held e he =>
    have hevents : (c.log e).events.toList = c.events.toList ++ [e] := Array.toList_push
    exact h.steady (.refl _) rfl rfl rfl hevents (by simpa using he) hcourse
  | search c held n =>
    have hsteady := Call.withPool_steady (Pool.takeExisting_steady (c.heap.pool k) n)
    exact h.steady hsteady rfl rfl rfl (List.append_nil _).symm (by simp) hcourse
  | take c held i =>
    have hsteady := Call.withPool_steady (Pool.takeFrom_steady (c.heap.pool k) i)
    exact h.steady hsteady rfl rfl rfl (List.append_nil _).symm (by simp) hcourse
  | claim c hlt => exact h.claim (Heap.lt_size (Nat.zero_lt_of_lt hlt)) hcourse
  | @publish c slot r policy blockSize hnew =>
    have hheap : ((c.withPool k ((c.heap.pool k).publish slot r)).log (.poolGrew policy blockSize slot)).heap.pool k =
        (c.heap.pool k).publish slot r := Heap.pool_setPool_self (Heap.lt_size h.onCourse.limit_pos) _
    exact h.publish r policy blockSize Array.toList_push hheap rfl rfl rfl hcourse

/-- **A path** keeps the course of an allocation. -/
theorem Course.path (h : Course claimed k s x) (hpath : Call.Path k x y) : Course claimed k s y := by
  induction hpath with
  | refl => exact h
  | tail _ hstep ih => exact ih.step hstep

end BlockHeap.Careless
