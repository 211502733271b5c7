import BlockHeap.Proofs.Threads.Effect

/-!
# Shared arenas

Any number of threads use one arena. A thread holds the blocks that it was given, and a call of it proceeds by one
operation on a slot at a time; in which order the operations of different threads take place is arbitrary (`Move`).

- `Ledger`: every block that was handed out is either free or in the hands of one thread, not both.
- `Shared.Sound`: besides the ledger, every free block lies in a region with a summary bit, or some thread is about to
  set that bit.
- `Sound.move`, `Sound.run`: every move keeps this, and so does every run.
-/

namespace BlockHeap.Arena

open FreeMap (blocksPerRegion)

/-! ## Threads and their moves -/

/-- A thread that uses an arena. -/
structure Thread where
  /-- The addresses of the blocks that it was given and has not given back. -/
  held : List Nat := []
  /-- The answers to its allocations, the latest first. -/
  answers : List (Option Nat) := []
  /-- Where its call is. -/
  stage : Stage := .idle
  deriving DecidableEq

/-- A call goes on to a stage, or is over. -/
def Thread.settle (th : Thread) : Stage → Thread
  | .answered answer => { held := answer.toList ++ th.held, answers := answer :: th.answers }
  | .released => { th with stage := .idle }
  | stage => { th with stage }

/-- An arena and the threads that use it. -/
structure Shared where
  arena : Arena
  threads : Nat → Thread

/-- What may happen next. -/
inductive Move where
  /-- A thread without a call in progress begins an allocation. -/
  | allocate (t : Nat)
  /-- A thread without a call in progress begins to give back a block that it holds. -/
  | deallocate (t address : Nat)
  /-- The next operation of a call takes place. -/
  | operate (t : Nat) (spurious : Bool)

/-- The thread that moves. -/
def Move.thread : Move → Nat
  | .allocate t => t
  | .deallocate t _ => t
  | .operate t _ => t

namespace Shared

/-- A fresh arena, which no thread has used. -/
def start (a : Arena) : Shared := ⟨a, fun _ => {}⟩

/-- Changes a thread. -/
def set (s : Shared) (t : Nat) (th : Thread) : Shared := { s with threads := Function.update s.threads t th }

def allocate (s : Shared) (t : Nat) : Shared :=
  match (s.threads t).stage with
  | .idle => s.set t ⟨(s.threads t).held, (s.threads t).answers, .loadBump⟩
  | _ => s

def deallocate (s : Shared) (t address : Nat) : Shared :=
  match (s.threads t).stage with
  | .idle =>
    if address ∈ (s.threads t).held then
      s.set t ⟨(s.threads t).held.erase address, (s.threads t).answers, s.arena.beginRelease address⟩
    else s
  | _ => s

def operate (s : Shared) (t : Nat) (spurious : Bool) : Shared :=
  let r := s.arena.work (s.threads t).stage spurious
  Shared.set { s with arena := r.1 } t ((s.threads t).settle r.2)

def move (s : Shared) : Move → Shared
  | .allocate t => s.allocate t
  | .deallocate t x => s.deallocate t x
  | .operate t spurious => s.operate t spurious

def run (s : Shared) (ms : List Move) : Shared := ms.foldl move s

/-- The addresses of the blocks that a thread holds or that a call of it has in hand. -/
def blocks (s : Shared) (t : Nat) : List Nat := (s.threads t).stage.blocks s.arena ++ (s.threads t).held

/-- No call is in progress. -/
def Quiet (s : Shared) : Prop := ∀ t, (s.threads t).stage = .idle

end Shared

variable {g : Geometry} {a a' : Arena}

/-! ## Who has which block -/

/-- The blocks that were handed out are free or in the hands of one thread. -/
structure Ledger (a : Arena) (blocks : Nat → List Nat) : Prop where
  free_lt : ∀ i, a.free.isFree i = true → i < a.cursor
  owned : ∀ t, ∀ x ∈ blocks t, ∃ i < a.cursor, x = a.address i ∧ a.free.isFree i = false
  nodup : ∀ t, (blocks t).Nodup
  apart : ∀ t u x, x ∈ blocks t → x ∈ blocks u → t = u
  all : ∀ i < a.cursor, a.free.isFree i = true ∨ ∃ t, a.address i ∈ blocks t

namespace Ledger

variable {blocks : Nat → List Nat} {t : Nat}

/-- The blocks of one thread change. -/
theorem nodup_update (h : Ledger a blocks) {new : List Nat} (hnew : new.Nodup) (u : Nat) :
    (Function.update blocks t new u).Nodup := by
  by_cases hu : u = t
  · subst hu
    rw [Function.update_self]
    exact hnew
  · rw [Function.update_of_ne hu]
    exact h.nodup u

/-- The order of the blocks of a thread does not matter. -/
theorem perm (h : Ledger a blocks) {new : List Nat} (hp : new.Perm (blocks t)) :
    Ledger a (Function.update blocks t new) := by
  have hmem : ∀ u x, x ∈ Function.update blocks t new u ↔ x ∈ blocks u := by
    intro u x
    by_cases hu : u = t
    · subst hu
      rw [Function.update_self, hp.mem_iff]
    · rw [Function.update_of_ne hu]
  constructor
  case free_lt => exact h.free_lt
  case owned => exact fun u x hx => h.owned u x ((hmem u x).mp hx)
  case nodup => exact h.nodup_update (hp.nodup_iff.mpr (h.nodup t))
  case apart => exact fun u v x hu hv => h.apart u v x ((hmem u x).mp hu) ((hmem v x).mp hv)
  case all => exact fun i hi => (h.all i hi).imp_right fun ⟨u, hu⟩ => ⟨u, (hmem u _).mpr hu⟩

/-- A block that was not handed out, or is free, is in nobody's hands. -/
theorem not_mem (h : Ledger a blocks) (ha : a.Laid g) {i : Nat} (hi : a.cursor ≤ i ∨ a.free.isFree i = true) (u : Nat) :
    a.address i ∉ blocks u := by
  intro hmem
  obtain ⟨j, hj, heq, hbit⟩ := h.owned u _ hmem
  obtain rfl := ha.address_injective heq
  rcases hi with hi | hi
  · exact Nat.not_lt_of_le hi hj
  · rw [hi] at hbit
    cases hbit

/-- A thread takes a block. -/
theorem gain (h : Ledger a blocks) (ha : a.Laid g) (haddress : ∀ j, a'.address j = a.address j) {i : Nat}
    (hcursor : ∀ j, j < a'.cursor ↔ j < a.cursor ∨ j = i) (hnew : a.cursor ≤ i ∨ a.free.isFree i = true)
    (hbits : ∀ j, a'.free.isFree j = true ↔ a.free.isFree j = true ∧ j ≠ i) :
    Ledger a' (Function.update blocks t (a.address i :: blocks t)) := by
  have hnot := h.not_mem ha hnew
  have hmem : ∀ u x, x ∈ Function.update blocks t (a.address i :: blocks t) u ↔
      x ∈ blocks u ∨ u = t ∧ x = a.address i := by
    intro u x
    by_cases hu : u = t
    · subst hu
      rw [Function.update_self, List.mem_cons, or_comm]
      simp
    · rw [Function.update_of_ne hu]
      simp [hu]
  constructor
  case free_lt => exact fun j hj => (hcursor j).mpr (.inl (h.free_lt j ((hbits j).mp hj).1))
  case owned =>
    intro u x hx
    rcases (hmem u x).mp hx with hx | ⟨-, rfl⟩
    · obtain ⟨j, hj, rfl, hbit⟩ := h.owned u x hx
      refine ⟨j, (hcursor j).mpr (.inl hj), (haddress j).symm, ?_⟩
      rw [← Bool.not_eq_true, hbits, hbit]
      exact fun hj => nomatch hj.1
    · refine ⟨i, (hcursor i).mpr (.inr rfl), (haddress i).symm, ?_⟩
      rw [← Bool.not_eq_true, hbits]
      exact fun hi => hi.2 rfl
  case nodup => exact h.nodup_update (List.nodup_cons.mpr ⟨hnot t, h.nodup t⟩)
  case apart =>
    intro u v x hu hv
    rcases (hmem u x).mp hu with hu | ⟨hut, hx⟩
    · rcases (hmem v x).mp hv with hv | ⟨-, rfl⟩
      · exact h.apart u v x hu hv
      · exact absurd hu (hnot u)
    · rcases (hmem v x).mp hv with hv | ⟨hvt, -⟩
      · exact absurd (hx ▸ hv) (hnot v)
      · exact hut.trans hvt.symm
  case all =>
    intro j hj
    rw [haddress]
    by_cases hji : j = i
    · exact .inr ⟨t, (hmem t _).mpr (.inr ⟨rfl, by rw [hji]⟩)⟩
    · have hlt := ((hcursor j).mp hj).resolve_right hji
      exact (h.all j hlt).imp (fun hfree => (hbits j).mpr ⟨hfree, hji⟩) fun ⟨u, hu⟩ => ⟨u, (hmem u _).mpr (.inl hu)⟩

/-- A thread gives a block back. -/
theorem lose (h : Ledger a blocks) (ha : a.Laid g) (haddress : ∀ j, a'.address j = a.address j) {i : Nat}
    {rest : List Nat} (ht : blocks t = a.address i :: rest) (hcursor : a'.cursor = a.cursor)
    (hbits : ∀ j, a'.free.isFree j = true ↔ j = i ∨ a.free.isFree j = true) :
    Ledger a' (Function.update blocks t rest) := by
  have hfirst : a.address i ∈ blocks t := ht ▸ List.mem_cons_self
  have hnodup := h.nodup t
  rw [ht, List.nodup_cons] at hnodup
  have hmem : ∀ u x, x ∈ Function.update blocks t rest u ↔ x ∈ blocks u ∧ x ≠ a.address i := by
    intro u x
    by_cases hu : u = t
    · subst hu
      rw [Function.update_self, ht, List.mem_cons]
      constructor
      · exact fun hx => ⟨.inr hx, fun heq => hnodup.1 (heq ▸ hx)⟩
      · exact fun ⟨hx, hne⟩ => hx.resolve_left hne
    · rw [Function.update_of_ne hu, iff_self_and]
      exact fun hx heq => hu (h.apart u t _ hx (heq ▸ hfirst))
  constructor
  case free_lt =>
    intro j hj
    rw [hcursor]
    rcases (hbits j).mp hj with rfl | hj
    · obtain ⟨k, hk, heq, -⟩ := h.owned t _ hfirst
      exact ha.address_injective heq ▸ hk
    · exact h.free_lt j hj
  case owned =>
    intro u x hx
    obtain ⟨hx, hne⟩ := (hmem u x).mp hx
    obtain ⟨j, hj, rfl, hbit⟩ := h.owned u x hx
    refine ⟨j, hcursor ▸ hj, (haddress j).symm, ?_⟩
    rw [← Bool.not_eq_true, hbits, hbit, not_or]
    exact ⟨fun heq => hne (heq ▸ rfl), Bool.false_ne_true⟩
  case nodup => exact h.nodup_update hnodup.2
  case apart => exact fun u v x hu hv => h.apart u v x ((hmem u x).mp hu).1 ((hmem v x).mp hv).1
  case all =>
    intro j hj
    rw [hcursor] at hj
    rw [haddress]
    by_cases hji : j = i
    · exact .inl ((hbits j).mpr (.inl hji))
    · refine (h.all j hj).imp (fun hfree => (hbits j).mpr (.inr hfree)) fun ⟨u, hu⟩ => ⟨u, (hmem u _).mpr ⟨hu, ?_⟩⟩
      exact fun heq => hji (ha.address_injective heq)

/-- What a step does with the blocks in hand keeps the ledger. -/
theorem transfer (h : Ledger a blocks) (ha : a.Laid g) (haddress : ∀ j, a'.address j = a.address j)
    {old new held : List Nat} (ht : blocks t = old ++ held) (htransfer : Transfer a a' old new) :
    Ledger a' (Function.update blocks t (new ++ held)) := by
  cases htransfer with
  | keep cursor bits =>
    rw [← ht, Function.update_eq_self]
    constructor
    case free_lt => exact fun j hj => cursor ▸ h.free_lt j (bits j ▸ hj)
    case owned =>
      intro u x hx
      obtain ⟨j, hj, heq, hbit⟩ := h.owned u x hx
      exact ⟨j, cursor ▸ hj, heq.trans (haddress j).symm, (bits j).trans hbit⟩
    case nodup => exact h.nodup
    case apart => exact h.apart
    case all =>
      intro j hj
      rw [haddress, bits]
      exact h.all j (cursor ▸ hj)
  | gain cursor new bits =>
    rw [List.nil_append] at ht
    rw [← ht]
    exact h.gain ha haddress cursor new bits
  | lose cursor bits => exact h.lose ha haddress ht cursor bits

end Ledger

/-! ## The invariant -/

/-- Where the calls are makes sense, the ledger is right, and no free block is forgotten. -/
structure Shared.Sound (s : Shared) (g : Geometry) : Prop where
  laid : s.arena.Laid g
  valid : ∀ t, (s.threads t).stage.Valid s.arena
  ledger : s.arena.Ledger s.blocks
  marked_lt : ∀ r, s.arena.free.isMarked r = true → r < s.arena.free.shape.regionCount
  /-- The region of a free block has its summary bit, or a thread will set it. -/
  covered : ∀ i, s.arena.free.isFree i = true →
    s.arena.free.isMarked (i / blocksPerRegion) = true ∨ ∃ t, (s.threads t).stage.Covers i

/-- What a call remembers makes sense as long as the arena is divided in the same way. -/
theorem Stage.Valid.congr (h : a.Alike a') (hshape : a'.free.shape = a.free.shape) {st : Stage} (hv : st.Valid a) :
    st.Valid a' := by
  cases st <;> simp only [Stage.Valid, h.usable, hshape, h.blockCount] at hv ⊢ <;> exact hv

theorem Stage.blocks_congr (h : a.Alike a') (st : Stage) : st.blocks a' = st.blocks a := by
  cases st <;> simp only [Stage.blocks, h.address]

/-- A call that is over holds what it has in hand. -/
theorem Thread.settle_blocks (th : Thread) (a : Arena) (st : Stage) :
    (th.settle st).stage.blocks a ++ (th.settle st).held = st.blocks a ++ th.held := by
  cases st <;> rfl

theorem Thread.settle_valid (th : Thread) {st : Stage} (h : st.Valid a) : (th.settle st).stage.Valid a := by
  cases st <;> exact h

theorem Thread.settle_covers (th : Thread) {st : Stage} {i : Nat} (h : st.Covers i) :
    (th.settle st).stage.Covers i := by
  cases st <;> exact h

namespace Shared

variable {s : Shared} {t : Nat}

theorem set_self (s : Shared) (t : Nat) (th : Thread) : (s.set t th).threads t = th := Function.update_self _ _ _

theorem set_of_ne {u : Nat} (h : u ≠ t) (th : Thread) : (s.set t th).threads u = s.threads u :=
  Function.update_of_ne h _ _

theorem set_blocks (s : Shared) (t : Nat) (th : Thread) :
    (s.set t th).blocks = Function.update s.blocks t (th.stage.blocks s.arena ++ th.held) := by
  funext u
  by_cases hu : u = t
  · subst hu
    rw [blocks, set_self, Function.update_self]
    rfl
  · rw [blocks, set_of_ne hu, Function.update_of_ne hu]
    rfl

theorem allocate_arena (s : Shared) (t : Nat) : (s.allocate t).arena = s.arena := by
  unfold allocate
  split <;> rfl

theorem deallocate_arena (s : Shared) (t x : Nat) : (s.deallocate t x).arena = s.arena := by
  unfold deallocate
  split
  · split <;> rfl
  · rfl

theorem allocate_threads_of_ne {u : Nat} (h : t ≠ u) : (s.allocate u).threads t = s.threads t := by
  unfold allocate
  split
  · exact set_of_ne h _
  · rfl

theorem deallocate_threads_of_ne {u : Nat} (h : t ≠ u) (x : Nat) : (s.deallocate u x).threads t = s.threads t := by
  unfold deallocate
  split
  · split
    · exact set_of_ne h _
    · rfl
  · rfl

/-- Threads that do not move stay as they are. -/
theorem run_threads_of_ne (ms : List Move) (h : ∀ m ∈ ms, t ≠ m.thread) : (s.run ms).threads t = s.threads t := by
  induction ms generalizing s with
  | nil => rfl
  | cons m ms ih =>
    have hm := h m List.mem_cons_self
    refine (ih fun m hm => h m (List.mem_cons_of_mem _ hm)).trans ?_
    cases m with
    | allocate u => exact allocate_threads_of_ne hm
    | deallocate u x => exact deallocate_threads_of_ne hm x
    | operate u spurious => exact set_of_ne hm _

namespace Sound

/-- A thread begins a call. -/
theorem begin (h : s.Sound g) (ht : (s.threads t).stage = .idle) {th : Thread} (hv : th.stage.Valid s.arena)
    (hp : (th.stage.blocks s.arena ++ th.held).Perm (s.threads t).held) : (s.set t th).Sound g := by
  have hblocks : s.blocks t = (s.threads t).held := by
    rw [blocks, ht]
    rfl
  constructor
  case laid => exact h.laid
  case valid =>
    intro u
    by_cases hu : u = t
    · subst hu
      rw [set_self]
      exact hv
    · rw [set_of_ne hu]
      exact h.valid u
  case ledger =>
    rw [set_blocks]
    exact h.ledger.perm (hblocks ▸ hp)
  case marked_lt => exact h.marked_lt
  case covered =>
    intro i hi
    refine (h.covered i hi).imp_right fun ⟨u, hu⟩ => ⟨u, ?_⟩
    have hne : u ≠ t := by
      rintro rfl
      rw [ht] at hu
      exact hu
    rw [set_of_ne hne]
    exact hu

/-- What the next step of a thread does. -/
theorem work_effect (h : s.Sound g) (t : Nat) (spurious : Bool) :
    Effect g s.arena (s.threads t).stage (s.arena.work (s.threads t).stage spurious).1
      (s.arena.work (s.threads t).stage spurious).2 :=
  h.laid.work_effect h.ledger.free_lt (h.valid t) (fun x hx => h.ledger.owned t x (List.mem_append_left _ hx)) spurious

/-- A step of a call. -/
theorem operate (h : s.Sound g) (t : Nat) (spurious : Bool) : (s.operate t spurious).Sound g := by
  have heffect := h.work_effect t spurious
  obtain ⟨⟨a', st'⟩, hwork⟩ : ∃ r, s.arena.work (s.threads t).stage spurious = r := ⟨_, rfl⟩
  rw [hwork] at heffect
  rw [Shared.operate, hwork]
  constructor
  case laid => exact heffect.laid
  case valid =>
    intro u
    by_cases hu : u = t
    · subst hu
      rw [set_self]
      exact Thread.settle_valid _ (heffect.valid.congr heffect.alike heffect.shape)
    · rw [set_of_ne hu]
      exact (h.valid u).congr heffect.alike heffect.shape
  case ledger =>
    have hother : blocks { s with arena := a' } = s.blocks := funext fun u =>
      congrArg (· ++ _) (Stage.blocks_congr heffect.alike _)
    rw [set_blocks, Thread.settle_blocks, hother]
    change Ledger a' (Function.update s.blocks t (st'.blocks a' ++ _))
    rw [Stage.blocks_congr heffect.alike]
    exact h.ledger.transfer h.laid heffect.alike.address rfl heffect.transfer
  case marked_lt =>
    intro r hr
    change r < a'.free.shape.regionCount
    rw [heffect.shape]
    exact (heffect.marked_lt r hr).elim (h.marked_lt r) id
  case covered =>
    intro i hi
    have hhere : st'.Covers i → ∃ u, (((Shared.set { s with arena := a' } t ((s.threads t).settle st')).threads
        u).stage.Covers i) := by
      intro hc
      refine ⟨t, ?_⟩
      rw [set_self]
      exact Thread.settle_covers _ hc
    rcases heffect.freed i hi with hfree | hc
    · rcases h.covered i hfree with hmark | ⟨u, hu⟩
      · exact (heffect.marked i hmark).imp_right hhere
      · by_cases hut : u = t
        · subst hut
          exact (heffect.covers i hi hu).imp_right hhere
        · refine .inr ⟨u, ?_⟩
          rw [set_of_ne hut]
          exact hu
    · exact .inr (hhere hc)

/-- A fresh arena that nobody uses. -/
theorem start (h : a.Sound g) (htaken : a.taken = ∅) : (Shared.start a).Sound g where
  laid := h.toLaid
  valid _ := trivial
  ledger := by
    constructor
    case free_lt => exact fun i hi => h.lt_cursor i (FreeMap.mem_freeSet.mpr hi)
    case owned => exact fun _ _ hx => nomatch hx
    case nodup => exact fun _ => List.nodup_nil
    case apart => exact fun _ _ _ hx => nomatch hx
    case all =>
      intro i hi
      refine .inl (FreeMap.mem_freeSet.mp (by_contra fun hmem => ?_))
      have hin : i ∈ a.taken := Arena.Sound.mem_taken.mpr ⟨hi, hmem⟩
      rw [htaken] at hin
      cases hin
  marked_lt r hr := Nat.lt_of_not_le fun hle => Bool.false_ne_true ((h.exact.isMarked_behind hle).symm.trans hr)
  covered i hi := .inl ((h.exact.isMarked_iff _).mpr ⟨i, rfl, hi⟩)

theorem allocate (h : s.Sound g) (t : Nat) : (s.allocate t).Sound g := by
  unfold Shared.allocate
  split
  · rename_i ht
    exact h.begin ht trivial (List.Perm.refl _)
  · exact h

theorem deallocate (h : s.Sound g) (t x : Nat) : (s.deallocate t x).Sound g := by
  unfold Shared.deallocate
  split
  · rename_i ht
    split
    · rename_i hx
      obtain ⟨i, hi, rfl, -⟩ := h.ledger.owned t x (List.mem_append_right _ hx)
      have hb := Nat.lt_of_lt_of_le hi h.laid.cursor_le
      rw [h.laid.beginRelease_eq hb]
      exact h.begin ht hb (List.perm_cons_erase hx).symm
    · exact h
  · exact h

/-- **Every move keeps the invariant.** -/
theorem move (h : s.Sound g) (m : Move) : (s.move m).Sound g ∧ s.arena.Alike (s.move m).arena := by
  cases m with
  | allocate t => exact ⟨h.allocate t, .of_eq (s.allocate_arena t)⟩
  | deallocate t x => exact ⟨h.deallocate t x, .of_eq (s.deallocate_arena t x)⟩
  | operate t spurious => exact ⟨h.operate t spurious, (h.work_effect t spurious).alike⟩

/-- **Every run keeps the invariant.** -/
theorem run (ms : List Move) (h : s.Sound g) : (s.run ms).Sound g ∧ s.arena.Alike (s.run ms).arena := by
  induction ms generalizing s with
  | nil => exact ⟨h, .of_eq rfl⟩
  | cons m ms ih =>
    obtain ⟨h1, halike1⟩ := h.move m
    obtain ⟨h2, halike2⟩ := ih h1
    exact ⟨h2, halike1.trans halike2⟩

/-- While no call is in progress, the regions with free blocks have their summary bits. -/
theorem isMarked (h : s.Sound g) (hq : s.Quiet) {i : Nat} (hi : s.arena.free.isFree i = true) :
    s.arena.free.isMarked (i / blocksPerRegion) = true := by
  refine (h.covered i hi).resolve_right fun ⟨u, hu⟩ => ?_
  rw [hq u] at hu
  exact hu

end Sound

end Shared

end BlockHeap.Arena
