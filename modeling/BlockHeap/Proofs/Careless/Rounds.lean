import BlockHeap.Proofs.Careless.Basic
import BlockHeap.Proofs.Run.Saturate

/-!
# How many rounds an allocation takes

An allocation goes in rounds, and nothing counts them: another round follows whenever others have emptied the arena that
was just made. `Call.Loop` is the loop as such, without a limit; `Call.rounds` has the result of the loop as soon as its
limit is large enough (`Loop.rounds_eq`), and is stalled as long as it is not (`Loop.rounds_stalled`).

A round after which another one follows has put an arena into the slot that was the next one when it began. The slot
stays counted whatever others give back, so the next round begins with more slots counted (`OnCourse.round_spec`), and
there is room for so many such rounds only (`OnCourse.loops`). In a round nobody else works between the look at the
count and the claim of the next slot, so the claim succeeds (`claim?_ne_false`).
-/

namespace BlockHeap

namespace Call

variable {ε : Type} {P : Pact ε} {claimed : Nat → List Nat} {k fuel : Nat} {c c' : Call ε} {cs : List (Call ε)}
  {r : Except Failure Nat × Call ε}

/-- The answer to the claim of a slot in one round of an allocation from pool `k`, if the round comes so far. -/
def claim? (c : Call ε) (k : Nat) : Option Bool :=
  let n := (c.heap.pool k).count
  match c.onPool k (·.takeExisting n) with
  | (.ok none, c) => if (c.heap.pool k).maxArenas ≤ n then none else some (c.onPool k (·.claimSlot n)).1
  | _ => none

/-- The rounds of an allocation from pool `k`: the states in which they begin, and what the last one ends with. -/
inductive Loop (k : Nat) : Call ε → List (Call ε) → Except Failure Nat × Call ε → Prop where
  | last {c c' : Call ε} {answer : Except Failure Nat} (h : c.round k = (some answer, c')) :
    Loop k c [c] (answer, c')
  | again {c c' : Call ε} {cs : List (Call ε)} {r : Except Failure Nat × Call ε} (h : c.round k = (none, c'))
    (hloop : Loop k c' cs r) : Loop k c (c :: cs) r

/-- A limit that is large enough does not matter. -/
theorem Loop.rounds_eq (h : Loop k c cs r) : ∀ {fuel : Nat}, cs.length ≤ fuel → c.rounds k fuel = r := by
  induction h with
  | last h =>
    intro fuel hle
    obtain ⟨fuel, rfl⟩ := Nat.exists_eq_succ_of_ne_zero (Nat.ne_zero_of_lt hle)
    rw [rounds, h]
  | again h _ ih =>
    intro fuel hle
    obtain ⟨fuel, rfl⟩ := Nat.exists_eq_succ_of_ne_zero (Nat.ne_zero_of_lt hle)
    rw [rounds, h]
    exact ih (Nat.le_of_succ_le_succ hle)

/-- A limit that is too small shows. -/
theorem Loop.rounds_stalled (h : Loop k c cs r) :
    ∀ {fuel : Nat}, fuel < cs.length → (c.rounds k fuel).1 = .error .stalled := by
  induction h with
  | last h =>
    intro fuel hlt
    obtain rfl : fuel = 0 := Nat.lt_one_iff.mp hlt
    rfl
  | again h _ ih =>
    intro fuel hlt
    cases fuel with
    | zero => rfl
    | succ fuel =>
      rw [rounds, h]
      exact ih (Nat.lt_of_succ_lt_succ hlt)

/-- **The claim of a slot never fails** while nobody else works: a search leaves the count as it is. -/
theorem claim?_ne_false (c : Call ε) (k : Nat) : c.claim? k ≠ some false := by
  have hsteady := withPool_steady (c := c) (Pool.takeExisting_steady (c.heap.pool k) (c.heap.pool k).count)
  rw [claim?, onPool_eq]
  split
  · rename_i c' hfound
    obtain rfl : c.withPool k ((c.heap.pool k).takeExisting (c.heap.pool k).count).2 = c' :=
      congrArg Prod.snd hfound
    split
    · simp
    · simp [onPool_claimSlot hsteady.count]
  · simp

/-- **The loop ends**, and each round but the last one has a slot more to begin with. -/
theorem OnCourse.loops (left : Nat) : ∀ {c : Call ε}, OnCourse P claimed k (c, []) →
    (c.heap.pool k).maxArenas - (c.heap.pool k).count ≤ left →
    ∃ cs r, Loop k c cs r ∧ cs.length ≤ left + 1 ∧ Ends k c r := by
  induction left with
  | zero =>
    intro c hx hleft
    rcases hx.round_spec with ⟨answer, c', h1, h2⟩ | ⟨c', h1, hpath, hlt⟩
    · exact ⟨[c], _, .last h1, Nat.le_refl 1, h2⟩
    · -- no slot was left to be counted
      obtain ⟨hx', hl⟩ := hpath.keeps hx
      have hle := (hx'.regular.pools k).slots.count_le
      have hsame := (hl.onward hx.regular k).maxArenas
      dsimp only at hle hsame
      omega
  | succ left ih =>
    intro c hx hleft
    rcases hx.round_spec with ⟨answer, c', h1, h2⟩ | ⟨c', h1, hpath, hlt⟩
    · exact ⟨[c], _, .last h1, Nat.le_add_left 1 _, h2⟩
    · obtain ⟨hx', hl⟩ := hpath.keeps hx
      have hsame := (hl.onward hx.regular k).maxArenas
      dsimp only at hsame
      obtain ⟨cs, r, hloop, hlen, hends⟩ := ih hx' (by omega)
      exact ⟨c :: cs, r, .again h1 hloop, Nat.succ_le_succ hlen, hends.after hpath⟩

end Call

open Careless

/-- **The loop of an allocation ends**, whatever others do while its mappings are made and whenever the pool has grown:
from each heap that is seen in a careless run, after one round more than the pool could have arenas more, with a block,
with a mapping refused or with the pool exhausted. The claim of a slot does not fail in any of the rounds. An allocation
with a limit of fewer rounds is stalled, and one with the usual limit has the result of the loop. -/
theorem allocate_loops {h : Heap} (h' : h.Fresh) (src : Source) (acts : List Careless.Act) {h₁ : Heap}
    (hseen : h₁ ∈ (actAll src acts (Scene.start h)).look.2.seen) (k : Nat) (maps : List Reaction)
    (grown : List (List Careless.Act)) (diary : Diary) :
    ∃ cs r, Call.Loop k ⟨h₁, diary, reactions src maps, pauses src grown, #[]⟩ cs r ∧
      cs.length ≤ (h₁.pool k).maxArenas - (h₁.pool k).count + 1 ∧ (∀ d ∈ cs, d.claim? k ≠ some false) ∧
      ((∃ x, r.1 = .ok x) ∨ (∃ n e, r.1 = .error (.error (.map n e))) ∨
        ∃ size n, r.1 = .error (.error (.poolExhausted size n))) ∧
      (∀ fuel < cs.length,
        (Call.rounds ⟨h₁, diary, reactions src maps, pauses src grown, #[]⟩ k fuel).1 = .error .stalled) ∧
      Call.allocate ⟨h₁, diary, reactions src maps, pauses src grown, #[]⟩ k = r := by
  obtain ⟨claimed, hr⟩ := h'.seen_regular src acts h₁ hseen
  -- the heaps that were seen before do not matter
  have hothers := Diary.inherited src diary.seen
  have hfair : Call.Fair (Diary.regular diary.seen) ⟨h₁, diary, reactions src maps, pauses src grown, #[]⟩ :=
    Diary.fair (fun _ hh => .inl hh) (hothers.of_reactions maps) (hothers.of_pauses grown)
  obtain ⟨cs, r, hloop, hlen, hends⟩ := Call.OnCourse.loops _ (hfair.onCourse hr k) (Nat.le_refl _)
  exact ⟨cs, r, hloop, hlen, fun d _ => d.claim?_ne_false k, hends.answer, fun _ => hloop.rounds_stalled,
    hloop.rounds_eq hlen⟩

/-- All blocks of an arena are allocated, and then one more, for which no mapping is granted. -/
def drainArena : List Careless.Act := List.replicate 15 (.allocate 1 [] []) ++ [.allocate 1 [.mk [] true] []]

/-- Others drain each arena as soon as it is there, and fail to make another one: an allocation from a pool of three
arenas takes four rounds, and finds the pool exhausted. -/
theorem allocate_loops_drained :
    let h := (Heap.onOs .standard).addPools [threeArenas]
    h.Fresh ∧ h ∈ (actAll (.pool 0) [] (Scene.start h)).look.2.seen ∧
    ∃ cs r, Call.Loop 0 ⟨h, ⟨[], [], [], []⟩, [], pauses (.pool 0) (List.replicate 3 drainArena), #[]⟩ cs r ∧
      cs.length = 4 ∧ (∀ d ∈ cs, d.claim? 0 ≠ some false) ∧
      r.1 = .error (.error (.poolExhausted SizeClass.greatest 3)) := by
  intro h
  have hseen : h ∈ (actAll (.pool 0) [] (Scene.start h)).look.2.seen :=
    List.mem_append_right _ List.mem_cons_self
  obtain ⟨cs, r, hloop, hlen, hclaims, -, -, hr⟩ := allocate_loops threeArenas_fresh (.pool 0) [] hseen 0 []
    (List.replicate 3 drainArena) ⟨[], [], [], []⟩
  have hanswer : r.1 = .error (.error (.poolExhausted SizeClass.greatest 3)) := by
    rw [← hr]
    decide +kernel
  -- three rounds would not be enough
  have hstalled : (Call.rounds ⟨h, ⟨[], [], [], []⟩, reactions (.pool 0) [],
      pauses (.pool 0) (List.replicate 3 drainArena), #[]⟩ 0 3).1 = .error .stalled := by
    decide +kernel
  have hmore : 3 < cs.length := by
    by_contra hle
    rw [hloop.rounds_eq (Nat.le_of_not_lt hle), hanswer] at hstalled
    cases hstalled
  exact ⟨threeArenas_fresh, hseen, cs, r, hloop, Nat.le_antisymm hlen hmore, hclaims, hanswer⟩

end BlockHeap
