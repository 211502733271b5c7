import BlockHeap.Proofs.Pool.Protocol
import BlockHeap.Proofs.Pool.Regular

/-!
# Honest growth

`Growths.Step` lets anybody put any arena into a slot that he has claimed, and give back any address. A step is
*honest* when the arenas that it puts into empty slots are new ones. Nothing more is needed for a pool to stay regular,
and for its arenas to stay where they are (`Honest.onward`); so this holds for all that is reached by honest steps, with
any number of growths in progress (`Comes.onward`).
-/

namespace BlockHeap.Pool.Growths

variable {s t : Growths}

/-- A step that puts only new arenas into slots. -/
def Honest (s t : Growths) : Prop :=
  Step s t ∧ ∀ i r, s.pool.slot? i = none → t.pool.slot? i = some r → r.value.New s.pool.blockSize

/-- Honest steps in any number and order. -/
abbrev Comes : Growths → Growths → Prop := Relation.ReflTransGen Honest

/-- A step that fills no slot is honest. -/
theorem Honest.of_step (h : Step s t) (hslot : ∀ i, s.pool.slot? i = none → t.pool.slot? i = none) : Honest s t := by
  refine ⟨h, fun i r hnone hsome => ?_⟩
  rw [hslot i hnone] at hsome
  cases hsome

/-- Work in existing arenas is honest. -/
theorem Honest.of_work {q : Pool} (hw : s.pool.Work q) (h : Step s (s.withPool q)) : Honest s (s.withPool q) := by
  refine .of_step h fun i hnone => ?_
  rw [← Option.not_isSome_iff_eq_none] at hnone ⊢
  rwa [← hw.isSome_slot? i] at hnone

/-- **One step** keeps the slots in order. -/
theorem Step.slots (h : Step s t) (hs : s.pool.SlotsSound s.claimed) : t.pool.SlotsSound t.claimed := by
  cases h with
  | takeExisting n => exact hs.steady (s.pool.takeExisting_steady n)
  | takeFrom i => exact hs.steady (s.pool.takeFrom_steady i)
  | deallocate address => exact hs.steady (s.pool.deallocate_steady address)
  | start hn hclaim =>
    obtain rfl := claimSlot_eq hclaim
    rw [Growths.start, claimSlot_count]
    exact hs.claim hn
  | miss hmiss =>
    rw [claimSlot_of_false hmiss]
    exact hs
  | store hi r => exact hs.store hi r
  | adopt hi => exact hs.steady (adopt_steady hi)
  | publish hi r => exact hs.publish hi r
  | fail hi => exact hs.giveBack hi

/-- **One step** leaves all arenas in their slots. -/
theorem Step.onward (h : Step s t) (hs : s.pool.SlotsSound s.claimed) : s.pool.Onward t.pool := by
  have hput : ∀ i ∈ s.claimed, ∀ r : Resident Arena, s.pool.Onward (s.pool.putSlot i (some r)) := by
    intro i hi r
    refine .of_slots ⟨rfl, rfl, rfl⟩ fun j hj => slot?_putSlot_of_ne ?_ _
    rintro rfl
    rw [hs.slot_held j hi] at hj
    cases hj
  cases h with
  | takeExisting n => exact (s.pool.takeExisting_work n).onward
  | takeFrom i => exact (s.pool.takeFrom_work i).onward
  | deallocate address => exact (s.pool.deallocate_work address).onward
  | start hn hclaim =>
    obtain rfl := claimSlot_eq hclaim
    rw [Growths.start, claimSlot_count]
    exact .of_slots ⟨rfl, rfl, rfl⟩ fun _ _ => rfl
  | miss hmiss =>
    rw [claimSlot_of_false hmiss]
    exact .refl _
  | store hi r => exact hput _ hi r
  | adopt hi => exact (adopt_work hi).onward
  | publish hi r => exact (hput _ hi r).trans (.of_slots ⟨rfl, rfl, rfl⟩ fun _ _ => rfl)
  | @fail i hi =>
    refine .of_slots (giveBack_alike _ _) fun j _ => ?_
    rw [Growths.fail]
    unfold Pool.giveBack
    split <;> rfl

/-- **One honest step** keeps a pool regular, and its arenas in their slots. -/
theorem Honest.onward (h : Honest s t) (hs : s.pool.Regular s.claimed) :
    t.pool.Regular t.claimed ∧ s.pool.Onward t.pool := by
  obtain ⟨hstep, hnew⟩ := h
  have honward := hstep.onward hs.slots
  refine ⟨⟨hstep.slots hs.slots, ?_, fun i r hr => ?_⟩, honward⟩
  · rw [honward.maxArenas, honward.blockSize]
    exact hs.geometry
  · rw [honward.blockSize]
    cases hold : s.pool.slot? i with
    | none => exact (hnew i r hold hr).used
    | some r' =>
      obtain ⟨a, ha, he⟩ := honward.arena i r' hold
      obtain rfl := Option.some.inj (hr.symm.trans ha)
      exact (hs.arenas i r' hold).evolves he

/-- **Any number of honest steps** keep a pool regular, and its arenas in their slots. -/
theorem Comes.onward (h : Comes s t) (hs : s.pool.Regular s.claimed) :
    t.pool.Regular t.claimed ∧ s.pool.Onward t.pool := by
  induction h with
  | refl => exact ⟨hs, .refl _⟩
  | tail _ hstep ih =>
    obtain ⟨hregular, honward⟩ := ih
    obtain ⟨hregular', honward'⟩ := hstep.onward hregular
    exact ⟨hregular', honward.trans honward'⟩

/-- A pool that has just been made for blocks of a size that arenas can have. -/
theorem regular_of_create {policy : Policy} {size m : Nat} {p : Pool} {g : Arena.Geometry}
    (hg : Arena.Geometry.ofBlockSize size = .ok g) (hp : create policy size m = .ok p) : p.Regular [] := by
  obtain ⟨-, hsize, -, hcount, hcurrent, -⟩ := create_eq hp
  refine .of_empty hcount hcurrent (fun i => slot?_create hp) fun _ => ⟨g, ?_⟩
  rw [hsize]
  exact hg

end BlockHeap.Pool.Growths
