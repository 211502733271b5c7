import BlockHeap.Proofs.Run.Onward

/-!
# Careless runs

In a careless run anybody may give back any address, as a block of any number of bytes, whether it is one, is in use,
was given back before or never belonged to the allocator. Each allocation says how the operating system answers its
requests for mappings, and which acts others carry out in the meantime and at each growth of a pool; these may again
contain others, to any depth. A `Diary` is kept of the heaps at the beginning and at the end of each act, of the
allocations that have ended, with all that happened in their pauses, and of the events logged.

What is to be shown of careless runs is shown for single calls, and is then `Inherited` by all that is done, to any
depth (`Inherited.of_acts`). All heaps that are seen in a careless run are regular (`Heap.Fresh.seen_regular`): an arena
may hand out blocks twice or take back blocks that were never handed out, but it remains what `Arena.Used` says, and
the slots remain in order.
-/

namespace BlockHeap.Careless

mutual

/-- What somebody does who need not be careful. -/
inductive Act where
  /-- Allocates a number of bytes. -/
  | allocate (bytes : Nat) (maps : List Reaction) (grown : List (List Act))
  /-- Gives back what is at an address as a block of a number of bytes. -/
  | deallocate (address bytes : Nat)

/-- How the operating system answers a request for a mapping. -/
inductive Reaction where
  /-- What others do in the meantime, and whether the request is turned down. -/
  | mk (meanwhile : List Act) (refuse : Bool)

end

/-- A time in which others worked while a call was in progress, and the events that they logged. -/
structure Pause where
  before : Heap
  after : Heap
  events : List Event

/-- An allocation that has ended. -/
structure Ended where
  before : Heap
  after : Heap
  answer : Except Failure Nat
  pauses : List Pause
  /-- The events that the allocation itself has logged. -/
  events : List Event

/-- What happened so far. -/
structure Diary where
  /-- The pauses of the call in progress. -/
  pauses : List Pause
  /-- The events of all calls that have ended. -/
  log : List Event
  ended : List Ended
  /-- The heaps at the beginning and at the end of each act and at the beginning of each pause. -/
  seen : List Heap

/-- A heap and the diary of its users. -/
abbrev Scene := Heap × Diary

namespace Scene

/-- A heap with which nothing was done. -/
def start (h : Heap) : Scene := (h, ⟨[], [], [], [h]⟩)

/-- The present heap is seen. -/
def look (s : Scene) : Scene := (s.1, { s.2 with seen := s.2.seen ++ [s.1] })

/-- The call that begins in a scene. -/
def enter (s : Scene) (decisions : List (Decision Diary)) (growths : List (Interlude Diary)) : Call Diary :=
  ⟨s.1, { s.look.2 with pauses := [] }, decisions, growths, #[]⟩

/-- The call that began in scene `s`, when it has ended. -/
def finished (s : Scene) (r : Except Failure Nat × Call Diary) : Ended :=
  ⟨s.1, r.2.heap, r.1, r.2.rest.pauses, r.2.events.toList⟩

/-- The call that began in scene `s` ends. -/
def close (s : Scene) (r : Except Failure Nat × Call Diary) : Scene :=
  look (r.2.heap, { r.2.rest with
    pauses := s.2.pauses
    log := r.2.rest.log ++ r.2.events.toList
    ended := r.2.rest.ended ++ [s.finished r] })

/-- What is at an address is given back. -/
def giveBack (src : Source) (s : Scene) (address bytes : Nat) : Scene :=
  let r := src.deallocate (Call.alone s.1 s.2) address bytes
  look (r.2.heap, { r.2.rest with log := r.2.rest.log ++ r.2.events.toList })

/-- Others work while a call is in progress. -/
def pause (others : Scene → Scene) (s : Scene) : Scene :=
  let t := others (look (s.1, { s.2 with log := [] }))
  (t.1, { t.2 with pauses := s.2.pauses ++ [⟨s.1, t.1, t.2.log⟩], log := s.2.log ++ t.2.log })

end Scene

mutual

/-- Carries out an act. -/
def Act.run (src : Source) : Act → Scene → Scene
  | .allocate bytes maps grown, s =>
    s.close (src.allocate (s.enter (reactions src maps) (pauses src grown)) bytes)
  | .deallocate address bytes, s => s.look.giveBack src address bytes

/-- Carries out acts one after the other. -/
def actAll (src : Source) : List Act → Scene → Scene
  | [], s => s
  | act :: acts, s => actAll src acts (act.run src s)

/-- The decision of an operating system that reacts in a given way. -/
def Reaction.decision (src : Source) : Reaction → Decision Diary
  | .mk meanwhile refuse => ⟨Scene.pause (actAll src meanwhile), refuse⟩

/-- The decisions of an operating system that reacts in given ways. -/
def reactions (src : Source) : List Reaction → List (Decision Diary)
  | [] => []
  | r :: rs => r.decision src :: reactions src rs

/-- The pauses in which lists of acts are carried out. -/
def pauses (src : Source) : List (List Act) → List (Interlude Diary)
  | [] => []
  | acts :: rest => Scene.pause (actAll src acts) :: pauses src rest

end

/-! ## Induction over acts -/

/-- All others do is an interlude for the call that waits for them. -/
def Scene.Pausing (R : Interlude Diary → Prop) (f : Interlude Diary) : Prop := ∃ g, R g ∧ f = Scene.pause g

/-- A property of interludes that allocations have when it holds of all that others do meanwhile. -/
structure Inherited (src : Source) (R : Interlude Diary → Prop) : Prop where
  nil : R id
  comp : ∀ {f g : Interlude Diary}, R f → R g → R fun s => g (f s)
  allocate : ∀ (bytes : Nat) {ds : List (Decision Diary)} {fs : List (Interlude Diary)},
    (∀ d ∈ ds, Scene.Pausing R d.meanwhile) → (∀ f ∈ fs, Scene.Pausing R f) →
      R fun s : Scene => s.close (src.allocate (s.enter ds fs) bytes)
  deallocate : ∀ address bytes : Nat, R fun s : Scene => s.look.giveBack src address bytes

namespace Inherited

variable {src : Source} {R : Interlude Diary → Prop}

-- one induction over acts, reactions and lists of both
mutual

theorem of_act (h : Inherited src R) (a : Act) : R (a.run src) := by
  cases a with
  | allocate bytes maps grown =>
    have hrun : Act.run src (.allocate bytes maps grown) =
        fun s : Scene => s.close (src.allocate (s.enter (reactions src maps) (pauses src grown)) bytes) := by
      funext s
      rw [Act.run]
    rw [hrun]
    exact h.allocate bytes (h.of_reactions maps) (h.of_pauses grown)
  | deallocate address bytes =>
    have hrun : Act.run src (.deallocate address bytes) = fun s : Scene => s.look.giveBack src address bytes := by
      funext s
      rw [Act.run]
    rw [hrun]
    exact h.deallocate address bytes

/-- **Acts have each property that is inherited.** -/
theorem of_acts (h : Inherited src R) (as : List Act) : R (actAll src as) := by
  cases as with
  | nil =>
    have hrun : actAll src [] = id := by
      funext s
      rw [actAll]
      rfl
    rw [hrun]
    exact h.nil
  | cons a as =>
    have hrun : actAll src (a :: as) = fun s => actAll src as (a.run src s) := by
      funext s
      rw [actAll]
    rw [hrun]
    exact h.comp (h.of_act a) (h.of_acts as)

theorem of_reaction (h : Inherited src R) (r : Reaction) : Scene.Pausing R (r.decision src).meanwhile := by
  cases r with
  | mk meanwhile refuse =>
    rw [Reaction.decision]
    exact ⟨_, h.of_acts meanwhile, rfl⟩

theorem of_reactions (h : Inherited src R) (rs : List Reaction) :
    ∀ d ∈ reactions src rs, Scene.Pausing R d.meanwhile := by
  cases rs with
  | nil =>
    rw [reactions]
    intro d hd
    cases hd
  | cons r rs =>
    rw [reactions]
    intro d hd
    rcases List.mem_cons.mp hd with rfl | hd
    · exact h.of_reaction r
    · exact h.of_reactions rs d hd

theorem of_pauses (h : Inherited src R) (grown : List (List Act)) :
    ∀ f ∈ pauses src grown, Scene.Pausing R f := by
  cases grown with
  | nil =>
    rw [pauses]
    intro f hf
    cases hf
  | cons as rest =>
    rw [pauses]
    intro f hf
    rcases List.mem_cons.mp hf with rfl | hf
    · exact ⟨_, h.of_acts as, rfl⟩
    · exact h.of_pauses rest f hf

end

end Inherited

/-! ## Careless runs are lawful -/

namespace Diary

/-- All heaps that were seen are regular, apart from some old ones. -/
def regular (old : List Heap) : Pact Diary where
  Good s := ∀ h ∈ s.2.seen, h ∈ old ∨ ∃ claimed, h.Regular claimed
  step hs _ _ := hs

variable {old : List Heap} {f : Interlude Diary} {src : Source}

theorem look_lawful : (regular old).Lawful Scene.look := by
  intro s claimed hr hs
  refine ⟨.refl _ _, fun h hh => ?_⟩
  rcases List.mem_append.mp hh with hh | hh
  · exact hs h hh
  · rw [List.mem_singleton.mp hh]
    exact .inr ⟨claimed, hr⟩

theorem pause_lawful (hf : Scene.Pausing (regular old).Lawful f) : (regular old).Lawful f := by
  obtain ⟨g, hg, rfl⟩ := hf
  intro s claimed hr hs
  exact hg.comp look_lawful (s.1, { s.2 with log := [] }) claimed hr hs

/-- What others do is lawful. -/
theorem fair {c : Call Diary} (hgood : (regular old).Good (c.heap, c.rest))
    (hds : ∀ d ∈ c.decisions, Scene.Pausing (regular old).Lawful d.meanwhile)
    (hfs : ∀ f ∈ c.growths, Scene.Pausing (regular old).Lawful f) : c.Fair (regular old) :=
  ⟨hgood, fun d hd => pause_lawful (hds d hd), fun f hf => pause_lawful (hfs f hf)⟩

/-- **Careless runs are lawful**: they lead the heap on, and only regular heaps are seen in them. -/
theorem inherited (src : Source) (old : List Heap) : Inherited src (regular old).Lawful where
  nil := (regular old).lawful_id
  comp hf hg := hg.comp hf
  allocate bytes ds fs hds hfs s claimed hr hs := by
    have hfair : Call.Fair (regular old) (Scene.enter s ds fs) := fair (look_lawful s claimed hr hs).2 hds hfs
    obtain ⟨hl, hgood⟩ := @Source.allocate_led _ _ src _ _ hfair hr bytes
    obtain ⟨-, hgood'⟩ := look_lawful (_, _) claimed (hl.regular hr) hgood
    exact ⟨hl, hgood'⟩
  deallocate address bytes s claimed hr hs := by
    obtain ⟨-, hs'⟩ := look_lawful s claimed hr hs
    obtain ⟨hl, hgood⟩ := @Source.deallocate_led _ _ src _ _ (Call.alone_fair hs') hr address bytes
    obtain ⟨-, hgood'⟩ := look_lawful (_, _) claimed (hl.regular hr) hgood
    exact ⟨hl, hgood'⟩

end Diary

end BlockHeap.Careless

namespace BlockHeap

open Careless

/-- **All heaps that are seen in a careless run are regular.** -/
theorem Heap.Fresh.seen_regular {h : Heap} (h' : h.Fresh) (src : Source) (acts : List Careless.Act) :
    ∀ h₁ ∈ (actAll src acts (Scene.start h)).look.2.seen, ∃ claimed, h₁.Regular claimed := by
  have hstart : (Diary.regular []).Good (Scene.start h) := fun h₁ hh => by
    rw [List.mem_singleton.mp hh]
    exact .inr ⟨_, h'.regular⟩
  obtain ⟨-, hgood⟩ :=
    Diary.look_lawful.comp ((Diary.inherited src []).of_acts acts) _ _ h'.regular hstart
  exact fun h₁ hh => (hgood h₁ hh).resolve_left List.not_mem_nil

end BlockHeap
