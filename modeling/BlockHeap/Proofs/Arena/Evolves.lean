import BlockHeap.Proofs.Arena.Blocks
import Mathlib.Logic.Relation

/-!
# What can become of an arena

Nobody has to give back only what was handed out: `deallocate` may be called with any address. What is left of
soundness then is that the arena is *regular*: it is laid out, and its free map is exact. Blocks beyond the cursor may
be free, and a block may be handed out twice.

Each use of an arena, an allocation or a deallocation of any address, keeps it regular and moves its cursor on or not
at all (`Use.keeps`), so any number of uses do (`Evolves.keeps`). The arenas that can be met are those that were new
once (`Used`), and they are regular (`Used.regular`).
-/

namespace BlockHeap.Arena

variable {a b c : Arena} {g : Geometry} {size : Nat}

/-- The arena is laid out, and its free map is exact and has the shape that the geometry asks for. -/
structure Regular (a : Arena) (g : Geometry) : Prop extends Laid a g where
  exact : a.free.Exact
  shape : a.free.shape = g.shape

/-- One call with the arena, whether it succeeds or not. -/
inductive Use : Arena → Arena → Prop where
  | allocate (a : Arena) : Use a a.allocate.2
  | deallocate (a : Arena) (address : Nat) : Use a (a.deallocate address).2

/-- Any number of calls with the arena. -/
abbrev Evolves : Arena → Arena → Prop := Relation.ReflTransGen Use

/-- The arena has just been made for blocks of a given size, in a region of the right length. -/
def New (a : Arena) (size : Nat) : Prop :=
  ∃ policy region g, Geometry.ofBlockSize size = .ok g ∧ region.len = regionBytes ∧ region.stop ≤ Size.limit ∧
    create policy g region = .ok a

/-- The arena was new once. -/
def Used (a : Arena) (size : Nat) : Prop := ∃ b, New b size ∧ b.Evolves a

/-- The second arena is the first one at a later time. -/
structure Later (a b : Arena) : Prop extends Alike a b where
  cursor_le : a.cursor ≤ b.cursor

theorem Later.refl (a : Arena) : a.Later a := ⟨.of_eq rfl, Nat.le_refl _⟩

theorem Later.trans (h : a.Later b) (h' : b.Later c) : a.Later c :=
  ⟨h.toAlike.trans h'.toAlike, Nat.le_trans h.cursor_le h'.cursor_le⟩

/-! ## Single uses -/

/-- Another free map for the same blocks keeps an arena regular. -/
theorem Regular.withFree (h : a.Regular g) {m : FreeMap} (hm : m.Exact) (halike : a.free.Alike m) :
    ({ a with free := m } : Arena).Regular g ∧ a.Later { a with free := m } :=
  ⟨⟨h.toLaid.withFree halike.blockCount, hm, halike.shape.trans h.shape⟩,
    ⟨rfl, rfl, rfl, rfl, halike.blockCount⟩, Nat.le_refl _⟩

/-- What an allocation from a regular arena comes to: the next block, a free one, or none. -/
theorem Regular.allocate_cases (h : a.Regular g) :
    (a.cursor < a.blockCount ∧ a.allocate = (.ok (some (a.address a.cursor)), a.advanced)) ∨
    (∃ i m, i < a.blockCount ∧ a.allocate = (.ok (some (a.address i)), { a with free := m }) ∧ m.Exact ∧
      a.free.Alike m) ∨
    (a.isFull = true ∧ a.allocate = (.ok none, { a with free := a.free.searched })) := by
  rcases Nat.lt_or_eq_of_le h.cursor_le with hc | hc
  · exact .inl ⟨hc, h.allocate_of_cursor_lt hc⟩
  rcases a.free.freeSet.eq_empty_or_nonempty with hfree | hfree
  · exact .inr (.inr ⟨(h.isFull_iff h.exact).mpr ⟨hc, hfree⟩, h.allocate_of_full h.exact hc hfree⟩)
  · obtain ⟨i, m, hi, halloc, hm, -, halike⟩ := h.allocate_of_free h.exact hc hfree
    exact .inr (.inl ⟨i, m, h.exact.lt_blockCount i (FreeMap.mem_freeSet.mp hi), halloc, hm, halike⟩)

/-- A full arena has no block to hand out, and counts the search. -/
theorem Regular.allocate_of_isFull (h : a.Regular g) (hfull : a.isFull = true) :
    a.allocate = (.ok none, { a with free := a.free.searched }) := by
  obtain ⟨hc, hfree⟩ := (h.isFull_iff h.exact).mp hfull
  exact h.allocate_of_full h.exact hc hfree

/-- An arena that is not full hands out one of its blocks. -/
theorem Regular.allocate_of_not_isFull (h : a.Regular g) (hroom : a.isFull = false) :
    ∃ i b, i < a.blockCount ∧ a.allocate = (.ok (some (a.address i)), b) := by
  rcases h.allocate_cases with ⟨hc, halloc⟩ | ⟨i, m, hi, halloc, -⟩ | ⟨hfull, -⟩
  · exact ⟨_, _, hc, halloc⟩
  · exact ⟨i, _, hi, halloc⟩
  · rw [hroom] at hfull
    cases hfull

theorem Regular.allocate_keeps (h : a.Regular g) : a.allocate.2.Regular g ∧ a.Later a.allocate.2 := by
  rcases h.allocate_cases with ⟨hc, halloc⟩ | ⟨i, m, -, halloc, hm, halike⟩ | ⟨-, halloc⟩
  · rw [halloc]
    refine ⟨⟨h.toLaid.advanced hc, h.exact, h.shape⟩, Sound.alike_advanced a, ?_⟩
    rw [h.cursor_advanced]
    exact Nat.le_succ _
  · rw [halloc]
    exact h.withFree hm halike
  · rw [halloc]
    exact h.withFree h.exact.searched ⟨rfl, rfl⟩

/-- Giving a block back keeps a free map exact, whichever block it is. -/
theorem release_keeps {m : FreeMap} (hm : m.Exact) (i : Nat) : (m.release i).2.Exact ∧ m.Alike (m.release i).2 := by
  rcases Nat.lt_or_ge i m.blockCount with hi | hi
  · cases hfree : m.isFree i with
    | true =>
      rw [FreeMap.release_of_isFree hi hfree]
      exact ⟨hm, rfl, rfl⟩
    | false =>
      obtain ⟨n, hrelease, hn, -, halike, -⟩ := FreeMap.release_spec hm hi (by simp [hfree])
      rw [hrelease]
      exact ⟨hn, halike⟩
  · rw [FreeMap.release_of_le hi]
    exact ⟨hm, rfl, rfl⟩

theorem Regular.deallocate_keeps (h : a.Regular g) (address : Nat) :
    (a.deallocate address).2.Regular g ∧ a.Later (a.deallocate address).2 := by
  unfold deallocate
  split
  · exact ⟨h, .refl a⟩
  · dsimp only
    split
    · exact ⟨h, .refl a⟩
    · obtain ⟨hm, halike⟩ := release_keeps h.exact ((address - a.base) / a.blockSize)
      exact h.withFree hm halike

/-- **One use** keeps an arena regular. -/
theorem Use.keeps (hu : Use a b) (h : a.Regular g) : b.Regular g ∧ a.Later b := by
  cases hu with
  | allocate => exact h.allocate_keeps
  | deallocate address => exact h.deallocate_keeps address

/-- **Any number of uses** keep an arena regular. -/
theorem Evolves.keeps (he : a.Evolves b) (h : a.Regular g) : b.Regular g ∧ a.Later b := by
  induction he with
  | refl => exact ⟨h, .refl a⟩
  | tail _ hu ih =>
    obtain ⟨hregular, hlater⟩ := ih
    obtain ⟨hregular', hlater'⟩ := hu.keeps hregular
    exact ⟨hregular', hlater.trans hlater'⟩

/-! ## Arenas that were new once -/

/-- A new arena is regular, and has handed out nothing. -/
theorem New.regular (h : a.New size) : ∃ g, Geometry.ofBlockSize size = .ok g ∧ a.Regular g ∧ a.blockSize = size ∧
    a.cursor = 0 := by
  obtain ⟨policy, region, g, hg, hlen, hstop, hcreate⟩ := h
  obtain ⟨b, hb, hsound, -, -, hsize, -⟩ := create_spec policy region hg hlen hstop
  obtain rfl : a = b := Except.ok.inj (hcreate.symm.trans hb)
  unfold create at hcreate
  cases hfree : FreeMap.create g.shape g.blockCount with
  | error f =>
    rw [hfree] at hcreate
    cases hcreate
  | ok m =>
    rw [hfree] at hcreate
    obtain rfl := Except.ok.inj hcreate
    obtain ⟨m', hm', -, -, hshape, -⟩ := FreeMap.create_spec hsound.fits.blockCount_le
    obtain rfl : m = m' := Except.ok.inj (hfree.symm.trans hm')
    exact ⟨g, hg, ⟨hsound.toLaid, hsound.exact, hshape⟩, hsize, Nat.zero_div _⟩

theorem New.used (h : a.New size) : a.Used size := ⟨a, h, .refl⟩

theorem Used.evolves (h : a.Used size) (he : a.Evolves b) : b.Used size := by
  obtain ⟨c, hnew, hc⟩ := h
  exact ⟨c, hnew, hc.trans he⟩

/-- **An arena that was new once is regular**, whatever was done with it. -/
theorem Used.regular (h : a.Used size) :
    ∃ g, Geometry.ofBlockSize size = .ok g ∧ a.Regular g ∧ a.blockSize = size := by
  obtain ⟨b, hnew, he⟩ := h
  obtain ⟨g, hg, hregular, hsize, -⟩ := hnew.regular
  obtain ⟨hregular', hlater⟩ := he.keeps hregular
  exact ⟨g, hg, hregular', hlater.blockSize.trans hsize⟩

/-- The same arena is still there at a later time. -/
theorem Used.later (h : a.Used size) (he : a.Evolves b) : a.Later b := by
  obtain ⟨g, -, hregular, -⟩ := h.regular
  exact (he.keeps hregular).2

end BlockHeap.Arena
