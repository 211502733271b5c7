import BlockHeap.Proofs.Threads.Solo
import BlockHeap.Proofs.Threads.Shared
import Mathlib.Data.List.ReduceOption

/-!
# Draining a shared arena

When no call is in progress, the summary bits of a shared arena are good enough for a thread that goes on alone:

- A call of one thread is `Arena.allocate` or `Arena.deallocate`, as long as the other threads do nothing
  (`Sound.alone`).
- A thread that allocates until there is no block left gets the blocks that nobody holds, each once (`Sound.drains`).

`run_shared` puts this together with the invariant of all runs.
-/

namespace BlockHeap

namespace FreeMap

/-- If no free block is forgotten, a search that finds nothing shows that there is none. -/
theorem not_isFree_of_search {m : FreeMap} (hlt : ∀ r, m.isMarked r = true → r < m.shape.regionCount)
    (hmarked : ∀ i, m.isFree i = true → m.isMarked (i / blocksPerRegion) = true) (h : m.search = none) (i : Nat) :
    m.isFree i = false := by
  rw [← Bool.not_eq_true]
  intro hi
  have hbehind : ∀ r, m.shape.regionCount ≤ r → m.isMarked r = false := by
    intro r hr
    rw [← Bool.not_eq_true]
    exact fun hmark => Nat.not_lt_of_le hr (hlt r hmark)
  rw [search_eq m hbehind, List.findSome?_eq_none_iff] at h
  have hlook := h _ ((mem_cyclic m.startRegion_lt).mpr (hlt _ (hmarked i hi)))
  rw [look, if_pos (hmarked i hi)] at hlook
  have hhas := (m.regionHasFree_iff _).mpr ⟨i, rfl, hi⟩
  rw [regionHasFree, hlook] at hhas
  cases hhas

end FreeMap

namespace Arena

open FreeMap (blocksPerRegion)

variable {g : Geometry} {a a' : Arena}

/-- All blocks were handed out, and none is free. -/
def Full (a : Arena) : Prop := ∀ i < a.blockCount, i < a.cursor ∧ a.free.isFree i = false

/-- An allocation that finds no block shows that there is none. -/
theorem Laid.full_of_allocate (h : a.Laid g) (hlt : ∀ r, a.free.isMarked r = true → r < a.free.shape.regionCount)
    (hmarked : ∀ i, a.free.isFree i = true → a.free.isMarked (i / blocksPerRegion) = true)
    (hnone : a.allocate = (.ok none, a')) : a'.Full := by
  by_cases hbump : a.bump < a.usable
  · rw [h.allocate_of_cursor_lt (h.bump_lt_iff.mp hbump)] at hnone
    cases hnone
  · rw [allocate_of_bump hbump] at hnone
    cases hs : a.free.search with
    | none =>
      rw [hs] at hnone
      obtain rfl : _ = a' := congrArg Prod.snd hnone
      intro i hi
      refine ⟨Nat.lt_of_lt_of_le hi ?_, FreeMap.not_isFree_of_search hlt hmarked hs i⟩
      exact Nat.le_of_not_lt fun hc => hbump (h.bump_lt_iff.mpr hc)
    | some w =>
      rw [hs] at hnone
      have hfst := congrArg Prod.fst hnone
      change Except.map some _ = _ at hfst
      exact absurd hfst (by
        cases (Except.bind _ _ : Except Fault Nat) with
        | error f => exact fun h => nomatch h
        | ok x => exact fun h => nomatch h)

/-- The call is over with an answer, or goes on. -/
theorem Comes.settle {r : Except Fault (Option Nat) × Arena} {st : Stage} (h : Comes r a st) (th : Thread) :
    (∃ answer, r = (.ok answer, a) ∧ th.settle st = ⟨answer.toList ++ th.held, answer :: th.answers, .idle⟩) ∨
      th.settle st = ⟨th.held, th.answers, st⟩ := by
  cases h with
  | answered result => exact .inl ⟨_, result.symm, rfl⟩
  | _ => exact .inr rfl

namespace Shared

variable {s : Shared} {t : Nat}

theorem set_eq_self (s : Shared) (t : Nat) : s.set t (s.threads t) = s := by
  rw [set, Function.update_eq_self]

theorem set_set (s : Shared) (t : Nat) (th th' : Thread) : (s.set t th).set t th' = s.set t th' := by
  rw [set, set, set, Function.update_idem]

theorem run_append (s : Shared) (ms ms' : List Move) : s.run (ms ++ ms') = (s.run ms).run ms' := List.foldl_append

/-- A step of a thread whose stage is known. -/
theorem operate_set (s : Shared) (t : Nat) (held : List Nat) (answers : List (Option Nat)) (st : Stage)
    (spurious : Bool) : (s.set t ⟨held, answers, st⟩).operate t spurious =
      Shared.set { s with arena := (s.arena.work st spurious).1 } t
        (Thread.settle ⟨held, answers, .idle⟩ (s.arena.work st spurious).2) := by
  have hsettle : ∀ st', Thread.settle ⟨held, answers, st⟩ st' = Thread.settle ⟨held, answers, .idle⟩ st' := by
    intro st'
    cases st' <;> rfl
  rw [operate, set_self, hsettle]
  exact set_set { s with arena := _ } t _ _

/-- While no call is in progress, an allocation that finds no block shows that there is none. -/
theorem Sound.full_of_allocate (h : s.Sound g) (hq : s.Quiet) (hnone : s.arena.allocate = (.ok none, a')) : a'.Full :=
  h.laid.full_of_allocate h.marked_lt (fun _ hi => h.isMarked hq hi) hnone

/-! ## One call -/

/-- A call that ends when it is left alone is run to its end. -/
theorem Sound.run_of_ends {st : Stage} (hends : Ends a st) {held : List Nat} {answers : List (Option Nat)} :
    ∀ {s : Shared} {r}, (s.set t (Thread.settle ⟨held, answers, .idle⟩ st)).Sound g → s.arena = a → Comes r a st →
    ∃ n answer a', r = (.ok answer, a') ∧
      (s.set t (Thread.settle ⟨held, answers, .idle⟩ st)).run (List.replicate n (.operate t false)) =
        Shared.set { s with arena := a' } t ⟨answer.toList ++ held, answer :: answers, .idle⟩ := by
  induction hends with
  | answered a answer =>
    intro s r h ha hcomes
    subst ha
    cases hcomes with
    | answered result => exact ⟨0, answer, s.arena, result.symm, rfl⟩
  | @step a st next ih =>
    intro s r h ha hcomes
    subst ha
    rcases hcomes.settle ⟨held, answers, .idle⟩ with ⟨answer, hr, hsettle⟩ | hsettle
    · refine ⟨0, answer, s.arena, hr, ?_⟩
      rw [hsettle]
      rfl
    · have hsound := h.operate t false
      rw [hsettle, operate_set] at hsound
      obtain ⟨n, answer, a', hr, hrun⟩ := ih (s := { s with arena := _ }) hsound rfl (hcomes.work h.laid false)
      refine ⟨n + 1, answer, a', hr, ?_⟩
      rw [hsettle, List.replicate_succ]
      change ((s.set t _).operate t false).run _ = _
      rw [operate_set, hrun]

/-- **An allocation of a thread that goes on alone is that of the arena.** -/
theorem Sound.allocate_alone (h : s.Sound g) (ht : (s.threads t).stage = .idle) :
    ∃ n answer a', s.arena.allocate = (.ok answer, a') ∧
      s.run (.allocate t :: List.replicate n (.operate t false)) =
        Shared.set { s with arena := a' } t
          ⟨answer.toList ++ (s.threads t).held, answer :: (s.threads t).answers, .idle⟩ := by
  have hbegin : s.allocate t = s.set t ⟨(s.threads t).held, (s.threads t).answers, .loadBump⟩ := by
    rw [Shared.allocate, ht]
  have hsound := h.allocate t
  rw [hbegin] at hsound
  obtain ⟨n, answer, a', hr, hrun⟩ := Sound.run_of_ends (Ends.loadBump h.laid h.ledger.free_lt) hsound rfl
    (.loadBump rfl)
  refine ⟨n, answer, a', hr, ?_⟩
  change (s.allocate t).run _ = _
  rw [hbegin]
  exact hrun

/-- **A deallocation of a thread that goes on alone is that of the arena.** -/
theorem Sound.deallocate_alone (h : s.Sound g) (ht : (s.threads t).stage = .idle) {x : Nat}
    (hx : x ∈ (s.threads t).held) :
    ∃ a', s.arena.deallocate x = (.ok (), a') ∧
      s.run [.deallocate t x, .operate t false, .operate t false] =
        Shared.set { s with arena := a' } t ⟨(s.threads t).held.erase x, (s.threads t).answers, .idle⟩ := by
  obtain ⟨i, hi, rfl, hbit⟩ := h.ledger.owned t x (List.mem_append_right _ hx)
  have hb := Nat.lt_of_lt_of_le hi h.laid.cursor_le
  let a₁ : Arena := { s.arena with free := s.arena.free.addBlock i (word_lt hb) }
  have hr : FreeMap.regionOfWord (i / FreeMap.bitsPerWord) / FreeMap.bitsPerWord < a₁.free.shape.summaryCount :=
    FreeMap.summary_word_lt (FreeMap.region_lt_regionCount (word_lt hb))
  let a₂ : Arena := { a₁ with free := a₁.free.mark (FreeMap.regionOfWord (i / FreeMap.bitsPerWord)) hr }
  have hdeallocate : s.arena.deallocate (s.arena.address i) = (.ok (), a₂) := by
    rw [h.laid.deallocate_eq hb, FreeMap.release_of_not_isFree hb hbit]
  have hbegin : s.deallocate t (s.arena.address i) =
      s.set t ⟨(s.threads t).held.erase (s.arena.address i), (s.threads t).answers, .giveBit i⟩ := by
    rw [Shared.deallocate, ht]
    dsimp only
    rw [if_pos hx, h.laid.beginRelease_eq hb]
  have hfirst : s.arena.work (.giveBit i) false = (a₁, .giveMark i) := by
    rw [work_giveBit (word_lt hb), hbit]
    rfl
  have hsecond : a₁.work (.giveMark i) false = (a₂, .released) := work_giveMark hr
  refine ⟨a₂, hdeallocate, ?_⟩
  change ((s.deallocate t (s.arena.address i)).operate t false).operate t false = _
  rw [hbegin, operate_set, hfirst]
  change Shared.operate (Shared.set { s with arena := a₁ } t ⟨_, _, .giveMark i⟩) t false = _
  rw [operate_set, hsecond]
  rfl

/-- What a thread does that goes on alone is what the arena does in one piece. -/
structure Alone (s : Shared) (t : Nat) : Prop where
  allocate : ∃ n answer a', s.arena.allocate = (.ok answer, a') ∧
    s.run (.allocate t :: List.replicate n (.operate t false)) =
      Shared.set { s with arena := a' } t
        ⟨answer.toList ++ (s.threads t).held, answer :: (s.threads t).answers, .idle⟩
  deallocate : ∀ x ∈ (s.threads t).held, ∃ a', s.arena.deallocate x = (.ok (), a') ∧
    s.run [.deallocate t x, .operate t false, .operate t false] =
      Shared.set { s with arena := a' } t ⟨(s.threads t).held.erase x, (s.threads t).answers, .idle⟩

theorem Sound.alone (h : s.Sound g) (ht : (s.threads t).stage = .idle) : s.Alone t :=
  ⟨h.allocate_alone ht, fun _ hx => h.deallocate_alone ht hx⟩

end Shared

/-! ## Draining -/

/-- A move of a thread that allocates only, while the others do nothing. -/
def Move.Solo (t : Nat) : Move → Prop
  | .allocate u => u = t
  | .deallocate _ _ => False
  | .operate u _ => u = t

namespace Shared

/-- From a moment on at which no call was in progress, a thread has gone on alone, and has had some answers since. -/
structure Draining (s₀ s : Shared) (t : Nat) (g : Geometry) (answers : List (Option Nat)) : Prop where
  sound : s.Sound g
  others : ∀ u, u ≠ t → s.threads u = s₀.threads u
  quiet : s₀.Quiet
  address : ∀ i, s.arena.address i = s₀.arena.address i
  blockCount : s.arena.blockCount = s₀.arena.blockCount
  answers_eq : (s.threads t).answers = answers ++ (s₀.threads t).answers
  held_eq : (s.threads t).held = answers.reduceOption ++ (s₀.threads t).held
  /-- When there was no block for an allocation, there is no block left. -/
  progress : (s.threads t).stage = .idle ∧ (answers.head? = some none → s.arena.Full) ∨
    ∃ r, Comes r s.arena (s.threads t).stage ∧ ∀ a', r = (.ok none, a') → a'.Full

namespace Draining

variable {s₀ s : Shared} {t : Nat} {answers : List (Option Nat)}

/-- Only the thread that goes on may be in a call. -/
theorem idle (h : Draining s₀ s t g answers) (ht : (s.threads t).stage = .idle) : s.Quiet := by
  intro u
  by_cases hu : u = t
  · rw [hu, ht]
  · rw [h.others u hu]
    exact h.quiet u

theorem begin (hs : s₀.Sound g) (hq : s₀.Quiet) (t : Nat) : Draining s₀ s₀ t g [] where
  sound := hs
  others _ _ := rfl
  quiet := hq
  address _ := rfl
  blockCount := rfl
  answers_eq := rfl
  held_eq := rfl
  progress := .inl ⟨hq t, fun h => nomatch h⟩

/-- A move changes the arena and the thread that goes on. -/
theorem next (h : Draining s₀ s t g answers) {a' : Arena} {th : Thread} {answers' : List (Option Nat)}
    (hsound : (Shared.set { s with arena := a' } t th).Sound g) (halike : s.arena.Alike a')
    (hanswers : th.answers = answers' ++ (s₀.threads t).answers)
    (hheld : th.held = answers'.reduceOption ++ (s₀.threads t).held)
    (hprogress : th.stage = .idle ∧ (answers'.head? = some none → a'.Full) ∨
      ∃ r, Comes r a' th.stage ∧ ∀ a', r = (.ok none, a') → a'.Full) :
    Draining s₀ (Shared.set { s with arena := a' } t th) t g answers' := by
  constructor
  case sound => exact hsound
  case others =>
    intro u hu
    rw [set_of_ne hu]
    exact h.others u hu
  case quiet => exact h.quiet
  case address => exact fun i => (halike.address i).trans (h.address i)
  case blockCount => exact halike.blockCount.trans h.blockCount
  case answers_eq =>
    rw [set_self]
    exact hanswers
  case held_eq =>
    rw [set_self]
    exact hheld
  case progress =>
    rw [set_self]
    exact hprogress

theorem allocate (h : Draining s₀ s t g answers) : Draining s₀ (s.allocate t) t g answers := by
  have hsound := h.sound.allocate t
  unfold Shared.allocate at hsound ⊢
  split
  · rename_i ht
    rw [ht] at hsound
    exact h.next hsound ⟨rfl, rfl, rfl, rfl, rfl⟩ h.answers_eq h.held_eq
      (.inr ⟨_, .loadBump rfl, fun a' hr => h.sound.full_of_allocate (h.idle ht) hr⟩)
  · exact h

/-- A step of the thread either ends an allocation or leaves the answers as they are. -/
theorem operate (h : Draining s₀ s t g answers) (spurious : Bool) :
    ∃ answers', Draining s₀ (s.operate t spurious) t g answers' := by
  rcases h.progress with ⟨ht, -⟩ | ⟨r, hcomes, hfull⟩
  · have hsame : s.operate t spurious = s := by
      rw [Shared.operate, ht]
      change s.set t ⟨(s.threads t).held, (s.threads t).answers, .idle⟩ = s
      rw [← ht]
      exact set_eq_self s t
    exact ⟨answers, hsame.symm ▸ h⟩
  · have hsound := h.sound.operate t spurious
    have halike := (h.sound.work_effect t spurious).alike
    have hnext := hcomes.work h.sound.laid spurious
    rcases hnext.settle (s.threads t) with ⟨answer, hr, hsettle⟩ | hsettle
    · rw [Shared.operate] at hsound ⊢
      rw [hsettle] at hsound ⊢
      refine ⟨answer :: answers, h.next hsound halike ?_ ?_ (.inl ⟨rfl, fun hhead => ?_⟩)⟩
      · exact congrArg (answer :: ·) h.answers_eq
      · change answer.toList ++ (s.threads t).held = _
        rw [h.held_eq]
        cases answer <;> rfl
      · obtain rfl : answer = none := Option.some.inj hhead
        exact hfull _ hr
    · rw [Shared.operate] at hsound ⊢
      rw [hsettle] at hsound ⊢
      exact ⟨answers, h.next hsound halike h.answers_eq h.held_eq (.inr ⟨r, hnext, hfull⟩)⟩

theorem run (ms : List Move) (hms : ∀ m ∈ ms, m.Solo t) (h : Draining s₀ s t g answers) :
    ∃ answers', Draining s₀ (s.run ms) t g answers' := by
  induction ms generalizing s answers with
  | nil => exact ⟨answers, h⟩
  | cons m ms ih =>
    have hrest : ∀ m ∈ ms, m.Solo t := fun m hm => hms m (List.mem_cons_of_mem _ hm)
    have hm := hms m List.mem_cons_self
    cases m with
    | allocate u =>
      obtain rfl : u = t := hm
      exact ih hrest h.allocate
    | deallocate u x => exact hm.elim
    | operate u spurious =>
      obtain rfl : u = t := hm
      obtain ⟨answers', h'⟩ := h.operate spurious
      exact ih hrest h'

/-- When the last answer was that there is no block, the thread has got the blocks that nobody held, each once. -/
theorem exact {xs : List Nat} (h : Draining s₀ s t g (none :: xs.map some)) (ht : (s.threads t).stage = .idle) :
    xs.Nodup ∧ ∀ x, x ∈ xs ↔
      ∃ i < s₀.arena.blockCount, x = s₀.arena.address i ∧ ∀ u, x ∉ (s₀.threads u).held := by
  have hheld : (s.threads t).held = xs ++ (s₀.threads t).held := by
    rw [h.held_eq, List.reduceOption_cons_of_none]
    simp [List.reduceOption]
  have hblocks : ∀ u, s.blocks u = (s.threads u).held := by
    intro u
    rw [blocks, h.idle ht u]
    rfl
  have hfull : s.arena.Full := by
    rcases h.progress with ⟨-, hfull⟩ | ⟨r, hcomes, -⟩
    · exact hfull rfl
    · rw [ht] at hcomes
      cases hcomes
  have hnodup := h.sound.ledger.nodup t
  rw [hblocks, hheld, List.nodup_append] at hnodup
  refine ⟨hnodup.1, fun x => ⟨fun hx => ?_, ?_⟩⟩
  · have hmem : x ∈ s.blocks t := by
      rw [hblocks, hheld]
      exact List.mem_append_left _ hx
    obtain ⟨i, hi, rfl, -⟩ := h.sound.ledger.owned t x hmem
    refine ⟨i, h.blockCount ▸ Nat.lt_of_lt_of_le hi h.sound.laid.cursor_le, h.address i, fun u hu => ?_⟩
    by_cases hut : u = t
    · subst hut
      exact hnodup.2.2 _ hx _ hu rfl
    · rw [← h.others u hut, ← hblocks u] at hu
      exact hut (h.sound.ledger.apart u t _ hu hmem)
  · rintro ⟨i, hi, rfl, hnobody⟩
    rw [← h.blockCount] at hi
    obtain ⟨hc, hbit⟩ := hfull i hi
    rcases h.sound.ledger.all i hc with hfree | ⟨u, hu⟩
    · rw [hbit] at hfree
      cases hfree
    · rw [h.address, hblocks] at hu
      by_cases hut : u = t
      · subst hut
        rw [hheld, List.mem_append] at hu
        exact hu.resolve_right (hnobody u)
      · rw [h.others u hut] at hu
        exact absurd hu (hnobody u)

end Draining

variable {s : Shared} {t : Nat}

/-- A thread holds no more blocks than there are. -/
theorem Sound.length_held_le (h : s.Sound g) (t : Nat) : (s.threads t).held.length ≤ s.arena.blockCount := by
  have hsub : (s.threads t).held ⊆ (List.range s.arena.blockCount).map s.arena.address := by
    intro x hx
    obtain ⟨i, hi, rfl, -⟩ := h.ledger.owned t x (List.mem_append_right _ hx)
    exact List.mem_map_of_mem (List.mem_range.mpr (Nat.lt_of_lt_of_le hi h.laid.cursor_le))
  have hnodup : (s.threads t).held.Nodup := (List.nodup_append.mp (h.ledger.nodup t)).2.1
  have hle := (hnodup.subperm hsub).length_le
  rwa [List.length_map, List.length_range] at hle

/-- A thread that goes on alone gets to the point where there is no block left. -/
theorem Sound.exists_drained (n : Nat) : ∀ {s : Shared}, s.Sound g → (s.threads t).stage = .idle →
    s.arena.blockCount = (s.threads t).held.length + n →
    ∃ ms, (∀ m ∈ ms, m = .allocate t ∨ m = .operate t false) ∧ ((s.run ms).threads t).stage = .idle ∧
      ∃ xs : List Nat, ((s.run ms).threads t).answers = none :: xs.map some ++ (s.threads t).answers := by
  induction n using Nat.strongRecOn with
  | ind n ih =>
    intro s h ht hn
    obtain ⟨k, answer, a', -, hrun⟩ := h.allocate_alone ht
    let call : List Move := .allocate t :: List.replicate k (.operate t false)
    have hcall : ∀ m ∈ call, m = .allocate t ∨ m = .operate t false := by
      intro m hm
      exact (List.mem_cons.mp hm).imp_right fun hm => (List.mem_replicate.mp hm).2
    have hsound := (h.run call).1
    rw [hrun] at hsound
    cases answer with
    | none =>
      refine ⟨call, hcall, ?_, [], ?_⟩
      · rw [hrun, set_self]
      · rw [hrun, set_self]
        rfl
    | some x =>
      -- one more block is held, which cannot be when all were
      have hcount : a'.blockCount = s.arena.blockCount := hsound.laid.blockCount.trans h.laid.blockCount.symm
      have hle := hsound.length_held_le t
      rw [set_self] at hle
      change (s.threads t).held.length + 1 ≤ a'.blockCount at hle
      obtain ⟨ms, hms, hidle, xs, hxs⟩ := ih (n - 1) (by omega) hsound (by rw [set_self]) (by
        rw [set_self]
        change a'.blockCount = (s.threads t).held.length + 1 + (n - 1)
        omega)
      refine ⟨call ++ ms, ?_, ?_, xs ++ [x], ?_⟩
      · exact fun m hm => (List.mem_append.mp hm).elim (hcall m) (hms m)
      · rw [run_append, hrun]
        exact hidle
      · rw [run_append, hrun, hxs, set_self]
        simp

/-- A thread that allocates until there is no block left gets the blocks that nobody holds, each once. -/
structure Drains (s : Shared) (t : Nat) : Prop where
  /-- If no exchange fails for no reason, the thread is told at last that there is no block left. -/
  ends : ∃ ms, (∀ m ∈ ms, m = .allocate t ∨ m = .operate t false) ∧ ((s.run ms).threads t).stage = .idle ∧
    ∃ xs : List Nat, ((s.run ms).threads t).answers = none :: xs.map some ++ (s.threads t).answers
  /-- Whenever it is told so, it has got what nobody held. -/
  exact : ∀ ms, (∀ m ∈ ms, m.Solo t) → ((s.run ms).threads t).stage = .idle → ∀ xs : List Nat,
    ((s.run ms).threads t).answers = none :: xs.map some ++ (s.threads t).answers →
    xs.Nodup ∧ ∀ x, x ∈ xs ↔ ∃ i < s.arena.blockCount, x = s.arena.address i ∧ ∀ u, x ∉ (s.threads u).held

theorem Sound.drains (h : s.Sound g) (hq : s.Quiet) (t : Nat) : s.Drains t where
  ends := h.exists_drained _ (hq t) (Nat.add_sub_of_le (h.length_held_le t)).symm
  exact ms hms ht xs hxs := by
    obtain ⟨answers, hd⟩ := (Draining.begin h hq t).run ms hms
    have heq := hd.answers_eq
    rw [hxs] at heq
    rw [← List.append_cancel_right heq] at hd
    exact hd.exact ht

/-! ## All runs -/

/-- No block is held by two threads, those that are held are not free, and no promise was broken. -/
structure Exclusive (s : Shared) : Prop where
  once : ∀ t, (s.threads t).held.Nodup
  apart : ∀ t u x, x ∈ (s.threads t).held → x ∈ (s.threads u).held → t = u
  taken : ∀ t, ∀ x ∈ (s.threads t).held, ∃ i < s.arena.blockCount, x = s.arena.address i ∧ s.arena.free.isFree i = false
  flawless : ∀ t f, (s.threads t).stage ≠ .failed f

theorem Sound.exclusive (h : s.Sound g) : s.Exclusive where
  once t := (List.nodup_append.mp (h.ledger.nodup t)).2.1
  apart t u x hx hu := h.ledger.apart t u x (List.mem_append_right _ hx) (List.mem_append_right _ hu)
  taken t x hx := by
    obtain ⟨i, hi, heq, hbit⟩ := h.ledger.owned t x (List.mem_append_right _ hx)
    exact ⟨i, Nat.lt_of_lt_of_le hi h.laid.cursor_le, heq, hbit⟩
  flawless t f ht := by
    have hv := h.valid t
    rw [ht] at hv
    exact hv

/-- **Sharing.** For every block size that is allowed, any number of threads may use a fresh arena, whatever the order
of their operations: no two threads get the same block, a call that nobody interrupts is that of the arena, and whenever
no call is in progress, every block that nobody holds can be had. -/
theorem run_shared {size : Nat} {region : Mapping} (hpow : Size.isPowerOfTwo size = true)
    (hle : size ≤ regionBytes / 2) (hlen : region.len = regionBytes) (hstop : region.stop ≤ Size.limit)
    (ms : List Move) :
    ∃ g a, Geometry.ofBlockSize size = .ok g ∧ g.blockSize = size ∧ create .shared g region = .ok a ∧
      a.Alike ((start a).run ms).arena ∧ ((start a).run ms).Exclusive ∧
      (∀ t, (((start a).run ms).threads t).stage = .idle → ((start a).run ms).Alone t) ∧
      (((start a).run ms).Quiet →
        (∀ i, ((start a).run ms).arena.free.isFree i = true →
          ((start a).run ms).arena.free.isMarked (i / blocksPerRegion) = true) ∧
        ∀ t, ((start a).run ms).Drains t) := by
  obtain ⟨g, hg⟩ := Geometry.exists_ofBlockSize hpow hle
  obtain ⟨a, hcreate, ha, htaken, -⟩ := create_spec .shared region hg hlen hstop
  obtain ⟨hs, halike⟩ := (Sound.start ha htaken).run ms
  exact ⟨g, a, hg, (Geometry.ofBlockSize_fits hg).1, hcreate, halike, hs.exclusive,
    fun _ ht => hs.alone ht, fun hq => ⟨fun _ hi => hs.isMarked hq hi, hs.drains hq⟩⟩

/-- Three blocks, two threads: the second one finds no block while the first one has given a block back but not yet set
the summary bit. Afterwards the block is not lost. -/
theorem run_shared_late_mark :
    Size.isPowerOfTwo 0x1000000 = true ∧ 0x1000000 ≤ regionBytes / 2 ∧
      (Mapping.mk 4096 regionBytes).len = regionBytes ∧ (Mapping.mk 4096 regionBytes).stop ≤ Size.limit ∧
      ∃ s : Shared, s.Exclusive ∧ s.threads 0 = ⟨[0x2001000], [some 0x2001000, some 4096], .idle⟩ ∧
        s.threads 1 = ⟨[0x1001000], [none, some 0x1001000], .idle⟩ ∧ s.Quiet ∧ s.arena.free.isFree 0 = true ∧
        s.arena.free.isMarked 0 = true ∧ s.Alone 0 ∧ s.Drains 1 := by
  refine ⟨by decide, by decide, rfl, by decide, ?_⟩
  let ms : List Move := [.allocate 0, .allocate 1, .operate 0 false, .operate 1 false, .operate 0 false,
    .operate 1 true, .operate 1 false, .allocate 0, .operate 0 false, .operate 0 false, .deallocate 0 4096,
    .operate 0 false, .allocate 1, .operate 1 false, .operate 1 false, .operate 1 false, .operate 1 false,
    .operate 0 false]
  obtain ⟨g, a, hg, -, ha, -, hexclusive, halone, hquiet⟩ := @run_shared 0x1000000 ⟨4096, regionBytes⟩ (by decide)
    (by decide) rfl (by decide) ms
  have hrun : (do
      let g ← Geometry.ofBlockSize 0x1000000
      let a ← create .shared g ⟨4096, regionBytes⟩
      let s := Shared.run (start a) ms
      return (s.threads 0, s.threads 1, s.arena.free.isFree 0)) =
        .ok (⟨[0x2001000], [some 0x2001000, some 4096], .idle⟩, ⟨[0x1001000], [none, some 0x1001000], .idle⟩,
          true) := by
    decide +kernel
  rw [hg] at hrun
  change (create _ _ _).bind _ = _ at hrun
  rw [ha] at hrun
  have hvalues := Except.ok.inj hrun
  simp only [Prod.mk.injEq] at hvalues
  obtain ⟨h0, h1, hfree⟩ := hvalues
  have hidle : ((start a).run ms).Quiet := by
    intro t
    by_cases ht0 : t = 0
    · rw [ht0, h0]
    by_cases ht1 : t = 1
    · rw [ht1, h1]
    · have hne : ∀ m ∈ ms, t ≠ m.thread := by
        intro m hm
        have hthread : m.thread = 0 ∨ m.thread = 1 := by
          revert m
          decide
        omega
      rw [run_threads_of_ne ms hne]
      rfl
  obtain ⟨hmarked, hdrains⟩ := hquiet hidle
  exact ⟨_, hexclusive, h0, h1, hidle, hfree, hmarked 0 hfree, halone 0 (hidle 0), hdrains 1⟩

end Shared

end Arena

end BlockHeap
