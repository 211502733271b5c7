import BlockHeap.Proofs.Heap.Leads

/-!
# The path of an allocation

An allocation from a pool is a path of small steps of the call: others work, the operating system answers, blocks are
looked for, the next slot is claimed, or an arena is put into it (`Call.Step`). A slot that is given back in the end is
not part of the path. Along a path the heap leads on, as long as the others are lawful (`Path.keeps`). What else is to
be shown about calls is shown for one step, and then for paths.
-/

namespace BlockHeap

/-- The slot that an event of a growth is about. -/
def Event.slot? : Event → Option Nat
  | .poolGrew _ _ slot => some slot
  | .growthFailed _ _ slot _ => some slot
  | _ => none

/-- The slots that are claimed when a call on pool `k` holds some more. -/
def holding (claimed : Nat → List Nat) (k : Nat) (held : List Nat) : Nat → List Nat :=
  Function.update claimed k (held ++ claimed k)

theorem holding_self (claimed : Nat → List Nat) (k : Nat) (held : List Nat) :
    holding claimed k held k = held ++ claimed k := Function.update_self ..

@[simp] theorem holding_nil (claimed : Nat → List Nat) (k : Nat) : holding claimed k [] = claimed := by
  simp [holding]

theorem update_holding (claimed : Nat → List Nat) (k : Nat) (held held' : List Nat) :
    Function.update (holding claimed k held) k (held' ++ claimed k) = holding claimed k held' := by
  simp [holding]

namespace Call

open Pool (Growths)
open Pool.Growths (Honest)

variable {ε : Type} {P : Pact ε} {claimed : Nat → List Nat} {k slot size : Nat} {c c' c'' : Call ε}
  {held held' held'' : List Nat} {x y : Call ε × List Nat}

/-- The call with another pool in the place of pool `k`. -/
def withPool (c : Call ε) (k : Nat) (q : Pool) : Call ε := { c with heap := c.heap.setPool k q }

/-- One step of a call that allocates from pool `k`, and holds a claimed slot or none. -/
inductive Step (k : Nat) : Call ε × List Nat → Call ε × List Nat → Prop where
  /-- Others work while the operating system is busy. -/
  | meanwhile (c : Call ε) (held : List Nat) {d : Decision ε} {ds : List (Decision ε)} (h : c.decisions = d :: ds) :
    Step k (c, held) (({ c with decisions := ds }).interlude d.meanwhile, held)
  /-- Others work on the occasion of a growth. -/
  | grown (c : Call ε) (held : List Nat) {f : Interlude ε} {fs : List (Interlude ε)} (h : c.growths = f :: fs) :
    Step k (c, held) (({ c with growths := fs }).interlude f, held)
  /-- The operating system answers. -/
  | answer (c : Call ε) (held : List Nat) {os : Os} (memory : Memory) (h : c.heap.os.Sound → os.Sound) :
    Step k (c, held) ({ c with heap := { c.heap with os, memory } }, held)
  | log (c : Call ε) (held : List Nat) {e : Event} (h : e.slot? = none) : Step k (c, held) (c.log e, held)
  /-- A block is looked for in all arenas. -/
  | search (c : Call ε) (held : List Nat) (n : Nat) :
    Step k (c, held) (c.withPool k ((c.heap.pool k).takeExisting n).2, held)
  /-- A block is looked for in one arena. -/
  | take (c : Call ε) (held : List Nat) (i : Nat) : Step k (c, held) (c.withPool k ((c.heap.pool k).takeFrom i).2, held)
  /-- The next slot is claimed. -/
  | claim (c : Call ε) (h : (c.heap.pool k).count < (c.heap.pool k).maxArenas) :
    Step k (c, []) (c.withPool k { c.heap.pool k with count := (c.heap.pool k).count + 1 }, [(c.heap.pool k).count])
  /-- A new arena is put into the claimed slot. -/
  | publish (c : Call ε) {slot : Nat} {r : Resident Arena} (policy : Policy) (blockSize : Nat)
    (h : r.value.New (c.heap.pool k).blockSize) :
    Step k (c, [slot]) ((c.withPool k ((c.heap.pool k).publish slot r)).log (.poolGrew policy blockSize slot), [])

/-- Any number of steps. -/
abbrev Path (k : Nat) : Call ε × List Nat → Call ε × List Nat → Prop := Relation.ReflTransGen (Step k)

/-- The others are lawful, and the heap is regular with the slots that the call holds. -/
structure OnCourse (P : Pact ε) (claimed : Nat → List Nat) (k : Nat) (x : Call ε × List Nat) : Prop where
  fair : x.1.Fair P
  regular : x.1.heap.Regular (holding claimed k x.2)

/-- The heap of one state leads to that of another. -/
abbrev Leads (claimed : Nat → List Nat) (k : Nat) (x y : Call ε × List Nat) : Prop :=
  x.1.heap.Leads (holding claimed k x.2) y.1.heap (holding claimed k y.2)

/-! ## Single steps -/

/-- A step by which the heap leads on, and which leaves to the others what is theirs. -/
theorem OnCourse.withHeap {c : Call ε} {held held' : List Nat} (hx : OnCourse P claimed k (c, held)) {h : Heap}
    (hl : c.heap.Leads (holding claimed k held) h (holding claimed k held')) (events : Array Event) :
    OnCourse P claimed k ({ c with heap := h, events }, held') :=
  ⟨⟨P.step hx.fair.good hx.regular hl, hx.fair.decisions, hx.fair.growths⟩, hl.regular hx.regular⟩

theorem OnCourse.log (hx : OnCourse P claimed k (c, held)) (e : Event) : OnCourse P claimed k (c.log e, held) :=
  hx.withHeap (.refl _ _) _

/-- A claim of the next slot leads the heap on. -/
theorem claim_leads (claimed : Nat → List Nat) (h : Heap) (hroom : (h.pool k).count < (h.pool k).maxArenas) :
    h.Leads (holding claimed k []) (h.setPool k { h.pool k with count := (h.pool k).count + 1 })
      (holding claimed k [(h.pool k).count]) := by
  rw [← update_holding claimed k [] [(h.pool k).count]]
  refine .setPool (Heap.lt_size (Nat.zero_lt_of_lt hroom)) fun log => ⟨log, ?_⟩
  rw [holding_self]
  have hstart := Growths.Step.start ⟨h.pool k, [] ++ claimed k, log⟩ hroom (by rw [Growths.claimSlot_count])
  rw [Growths.start, Growths.claimSlot_count] at hstart
  exact .of_step hstart fun _ hnone => hnone

/-- A new arena in the claimed slot leads the heap on. -/
theorem publish_leads {h : Heap} {r : Resident Arena} (hr : h.Regular (holding claimed k [slot]))
    (hnew : r.value.New (h.pool k).blockSize) :
    h.Leads (holding claimed k [slot]) (h.setPool k ((h.pool k).publish slot r)) (holding claimed k []) := by
  have hslots := (hr.pools k).slots
  rw [holding_self] at hslots
  have hmem : slot ∈ [slot] ++ claimed k := List.mem_cons_self
  have hmax : 0 < (h.pool k).maxArenas :=
    Nat.zero_lt_of_lt (Nat.lt_of_lt_of_le (hslots.lt_count slot hmem) hslots.count_le)
  rw [← update_holding claimed k [slot] []]
  refine .setPool (Heap.lt_size hmax) fun log => ⟨log, ?_⟩
  rw [holding_self]
  refine ⟨?_, fun i r' hnone hsome => ?_⟩
  · have hpublish := Growths.Step.publish ⟨h.pool k, [slot] ++ claimed k, log⟩ hmem r
    rw [Growths.store, Growths.withPool, List.cons_append, List.erase_cons_head] at hpublish
    exact hpublish
  · -- the only slot that is filled now and was not before is that of the new arena
    have hput : ((h.pool k).publish slot r).slot? i = if i = slot then some r else (h.pool k).slot? i :=
      Pool.slot?_putSlot (hslots.held_lt_capacity hmem) _ _
    rw [show ((h.pool k).publish slot r).slot? i = some r' from hsome,
      show (h.pool k).slot? i = none from hnone] at hput
    split at hput
    · rw [Option.some.inj hput]
      exact hnew
    · cases hput

/-- **One step** leads the heap on. -/
theorem Step.keeps (h : Step k x y) (hx : OnCourse P claimed k x) : OnCourse P claimed k y ∧ Leads claimed k x y := by
  cases h with
  | @meanwhile c held d ds h =>
    have hd : d ∈ c.decisions := by
      rw [h]
      exact List.mem_cons_self
    obtain ⟨hl, hgood⟩ := hx.fair.decisions d hd _ _ hx.regular hx.fair.good
    refine ⟨⟨⟨hgood, fun d' hd' => hx.fair.decisions d' ?_, hx.fair.growths⟩, hl.regular hx.regular⟩, hl⟩
    rw [h]
    exact List.mem_cons_of_mem d hd'
  | @grown c held f fs h =>
    have hf : f ∈ c.growths := by
      rw [h]
      exact List.mem_cons_self
    obtain ⟨hl, hgood⟩ := hx.fair.growths f hf _ _ hx.regular hx.fair.good
    refine ⟨⟨⟨hgood, hx.fair.decisions, fun f' hf' => hx.fair.growths f' ?_⟩, hl.regular hx.regular⟩, hl⟩
    rw [h]
    exact List.mem_cons_of_mem f hf'
  | answer c held memory h =>
    have hl : c.heap.Leads (holding claimed k held) { c.heap with os := _, memory } (holding claimed k held) :=
      .of_pools h rfl
    exact ⟨hx.withHeap hl _, hl⟩
  | log c held h => exact ⟨hx.log _, .refl _ _⟩
  | search c held n =>
    have hl : c.heap.Leads (holding claimed k held) (c.heap.setPool k ((c.heap.pool k).takeExisting n).2)
        (holding claimed k held) := .work (Pool.takeExisting_work _ n) fun s hs => by
      rw [← hs]
      exact .takeExisting s n
    exact ⟨hx.withHeap hl _, hl⟩
  | take c held i =>
    have hl : c.heap.Leads (holding claimed k held) (c.heap.setPool k ((c.heap.pool k).takeFrom i).2)
        (holding claimed k held) := .work (Pool.takeFrom_work _ i) fun s hs => by
      rw [← hs]
      exact .takeFrom s i
    exact ⟨hx.withHeap hl _, hl⟩
  | claim c h =>
    have hl := claim_leads claimed c.heap h
    exact ⟨hx.withHeap hl _, hl⟩
  | @publish c slot r policy blockSize h =>
    have hl := publish_leads hx.regular h
    exact ⟨hx.withHeap hl _, hl⟩

/-- **A path** leads the heap on. -/
theorem Path.keeps (h : Path k x y) (hx : OnCourse P claimed k x) : OnCourse P claimed k y ∧ Leads claimed k x y := by
  induction h with
  | refl => exact ⟨hx, .refl _ _⟩
  | tail _ hstep ih =>
    obtain ⟨hy, hl⟩ := ih
    obtain ⟨hz, hl'⟩ := hstep.keeps hy
    exact ⟨hz, hl.trans hl'⟩

end Call

end BlockHeap
