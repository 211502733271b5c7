import BlockHeap.Owned.Basic
import BlockHeap.Proofs.Owned.Lends

/-!
# What a value owns

A value owns the boxes that are part of it and those that lie in its boxes, to any depth (`Boxed.boxesOf`). `Owns` says
this together with what the value says: every box stores a value of its kind, and these values own the rest. A value
goes on owning the same boxes and saying the same when objects in the rooms of its boxes stay where they are
(`Owns.frame`).

A box inside a value is named by the turns that lead to it (`Boxed.reach?`). Another value in that box changes what the
whole value says at this place and nowhere else (`Focus`, `Owns.focus`).
-/

namespace BlockHeap

namespace Kind

/-- The values of the kind are plain: there are no boxes among their parts. -/
def isPlain : Kind → Bool
  | .pair _ _ _ => false
  | .box _ => false
  | _ => true

/-- What a plain value of the kind may say. Values without room all say the same. -/
def Admits (k : Kind) (c : Contents) : Prop := k.isPlain = true ∧ (k.element.size = 0 → c = .unit)

instance (k : Kind) (c : Contents) : Decidable (k.Admits c) := inferInstanceAs (Decidable (_ ∧ _))

/-- The plain values in a value and its boxes: their kinds, and what they say. -/
def leaves : Kind → Contents → Multiset (Kind × Contents)
  | .box inner, c => inner.leaves c
  | .pair _ first second, .pair c d => first.leaves c + second.leaves d
  | kind, c => {(kind, c)}

theorem leaves_of_isPlain {k : Kind} (h : k.isPlain = true) (c : Contents) : k.leaves c = {(k, c)} := by
  cases k with
  | pair => cases h
  | box => cases h
  | _ => rfl

end Kind

namespace Boxed

/-- The block of a box, if its value takes any room. -/
def rooms (r : Registry) (b : Boxed) : Multiset Block := Allocator.rooms ⟨r, b.kind.element⟩ 1 b.address

/-- The value lies in the box. -/
def Stores (b : Boxed) (m : Memory) (v : Value) : Prop :=
  (b.kind.element.size = 0 → v = b.kind.only) ∧
    (b.kind.element.size ≠ 0 → m.Holds ⟨b.address, b.kind.element.size, .value v⟩)

/-- The boxes of a value, and those inside them. -/
def boxesOf (m : Memory) : Kind → Value → Multiset Boxed
  | .box inner, .pointer address =>
    let b : Boxed := ⟨inner, address⟩
    b ::ₘ match b.value? m with
      | some v => boxesOf m inner v
      | none => 0
  | .pair _ first second, .pair v w => boxesOf m first v + boxesOf m second w
  | _, _ => 0

end Boxed

/-- A value in memory, what it says, and the boxes that it owns. -/
inductive Owns (m : Memory) : Kind → Value → Contents → Multiset Boxed → Prop where
  | plain {k : Kind} {c : Contents} (hadmits : k.Admits c) : Owns m k (.plain c) c 0
  /-- Where the pair takes no room, its values take none. -/
  | pair {e : Element} {first second : Kind} {v w : Value} {c d : Contents} {bs ds : Multiset Boxed}
    (hroom : e.size = 0 → first.element.size = 0 ∧ second.element.size = 0)
    (hfirst : Owns m first v c bs) (hsecond : Owns m second w d ds) :
    Owns m (.pair e first second) (.pair v w) (.pair c d) (bs + ds)
  | box {inner : Kind} {address : Nat} {v : Value} {c : Contents} {bs : Multiset Boxed}
    (hstores : Boxed.Stores ⟨inner, address⟩ m v) (hinner : Owns m inner v c bs) :
    Owns m (.box inner) (.pointer address) c (⟨inner, address⟩ ::ₘ bs)

variable {m m' : Memory} {r : Registry} {k : Kind} {v w : Value} {c : Contents} {bs : Multiset Boxed} {b : Boxed}

/-! ## Boxes and their values -/

namespace Boxed

theorem Stores.value? (h : b.Stores m v) : b.value? m = some v := by
  rw [Boxed.value?]
  split
  · rename_i hzero
    rw [h.1 hzero]
  · rename_i hroom
    have hread := (h.2 hroom).read?
    dsimp only at hread
    rw [hread]

/-- The block of a box whose value takes room. -/
def block (r : Registry) (b : Boxed) : Block :=
  ⟨(Source.registry r).poolOf b.kind.element.size, b.address, b.kind.element.size⟩

theorem rooms_of_size_ne_zero (r : Registry) (h : b.kind.element.size ≠ 0) : b.rooms r = {b.block r} := by
  rw [rooms, Allocator.rooms, Allocator.blockAt, Nat.one_mul, if_neg h]
  rfl

/-- A box goes on storing its value when objects in its room stay where they are. -/
theorem Stores.frame (h : b.Stores m v) (hs : m.Spares m' (b.rooms r)) : b.Stores m' v := by
  refine ⟨h.1, fun hroom => ?_⟩
  rw [rooms_of_size_ne_zero r hroom] at hs
  exact hs (b.block r) (Multiset.mem_singleton_self _) _ (h.2 hroom)

end Boxed

/-! ## Values and what they own -/

namespace Owns

/-- A value says what it is known to say. -/
theorem contentsOf?_eq (h : Owns m k v c bs) : Boxed.contentsOf? m k v = some c := by
  induction h with
  | @plain k c hadmits =>
    cases k with
    | pair => cases hadmits.1
    | box => cases hadmits.1
    | _ => rfl
  | pair _ _ _ ihfirst ihsecond =>
    rw [Boxed.contentsOf?, ihfirst, ihsecond]
    rfl
  | box hstores _ ih =>
    rw [Boxed.contentsOf?, hstores.value?]
    exact ih

theorem boxesOf_eq (h : Owns m k v c bs) : Boxed.boxesOf m k v = bs := by
  induction h with
  | @plain k c hadmits => cases k <;> rfl
  | pair _ _ _ ihfirst ihsecond => rw [Boxed.boxesOf, ihfirst, ihsecond]
  | box hstores _ ih =>
    rw [Boxed.boxesOf, hstores.value?]
    simp only [ih]

/-- There is only one value without room. -/
theorem eq_only (h : Owns m k v c bs) (hzero : k.element.size = 0) : v = k.only := by
  induction h with
  | @plain k c hadmits =>
    obtain rfl := hadmits.2 hzero
    cases k with
    | pair => cases hadmits.1
    | box => cases hadmits.1
    | _ => rfl
  | pair hroom _ _ ihfirst ihsecond =>
    rw [Kind.only, ← ihfirst (hroom hzero).1, ← ihsecond (hroom hzero).2]
  | box => cases hzero

/-- **A value stays what it is** when objects in the rooms of its boxes stay where they are. -/
theorem frame (h : Owns m k v c bs) (hs : m.Spares m' (bs.bind (Boxed.rooms r))) : Owns m' k v c bs := by
  induction h with
  | plain hadmits => exact .plain hadmits
  | pair hroom _ _ ihfirst ihsecond =>
    rw [Multiset.add_bind] at hs
    exact .pair hroom (ihfirst (hs.mono (Multiset.le_add_right _ _))) (ihsecond (hs.mono (Multiset.le_add_left _ _)))
  | box hstores _ ih =>
    rw [Multiset.cons_bind] at hs
    exact .box (hstores.frame (hs.mono (Multiset.le_add_right _ _))) (ih (hs.mono (Multiset.le_add_left _ _)))

end Owns

/-! ## Boxes inside a value -/

/-- A turn on the way to a box inside a value. -/
inductive Turn where
  /-- To the first value of a pair. -/
  | first
  /-- To the second value of a pair. -/
  | second
  /-- Into a box. -/
  | inside
  deriving DecidableEq, Repr

/-- The box to which the turns lead. -/
def Boxed.reach? (m : Memory) : Kind → Value → List Turn → Option Boxed
  | .box inner, .pointer address, [] => some ⟨inner, address⟩
  | .box inner, .pointer address, .inside :: path =>
    match (⟨inner, address⟩ : Boxed).value? m with
    | some v => reach? m inner v path
    | none => none
  | .pair _ first _, .pair v _, .first :: path => reach? m first v path
  | .pair _ _ second, .pair _ w, .second :: path => reach? m second w path
  | _, _, _ => none

theorem Boxed.reach?_plain (m : Memory) (k : Kind) (c : Contents) (path : List Turn) :
    reach? m k (.plain c) path = none := by
  cases k <;> rfl

/-- What a value says when the value in a box inside it says `d`. -/
def Kind.put : Kind → List Turn → Contents → Contents → Contents
  | .box _, [], _, d => d
  | .box inner, .inside :: path, c, d => inner.put path c d
  | .pair _ first _, .first :: path, .pair a b, d => .pair (first.put path a d) b
  | .pair _ _ second, .second :: path, .pair a b, d => .pair a (second.put path b d)
  | _, _, c, _ => c

/-- A value seen from a box inside it, whose value says `d` and owns `ds`: the other boxes and the other plain values
stay what they are when another value is put into the box and the objects in the rooms of the other boxes stay where
they are. -/
structure Focus (m : Memory) (r : Registry) (k : Kind) (v : Value) (c : Contents) (bs : Multiset Boxed)
    (path : List Turn) (b : Boxed) (d : Contents) (ds rest : Multiset Boxed) (plains : Multiset (Kind × Contents)) :
    Prop where
  boxes : bs = b ::ₘ (ds + rest)
  leaves : k.leaves c = b.kind.leaves d + plains
  put : ∀ {m' : Memory} {u' : Value} {d' : Contents} {ds' : Multiset Boxed}, m.Spares m' (rest.bind (Boxed.rooms r)) →
    b.Stores m' u' → Owns m' b.kind u' d' ds' → Owns m' k v (k.put path c d') (b ::ₘ (ds' + rest)) ∧
      k.leaves (k.put path c d') = b.kind.leaves d' + plains

namespace Focus

variable {path : List Turn} {d : Contents} {ds rest : Multiset Boxed} {plains : Multiset (Kind × Contents)}
  {e : Element} {other : Kind} {a : Contents} {as : Multiset Boxed}

/-- The box is the value itself. -/
theorem here (m : Memory) (r : Registry) (k : Kind) (address : Nat) (c : Contents) (bs : Multiset Boxed) :
    Focus m r (.box k) (.pointer address) c (⟨k, address⟩ ::ₘ bs) [] ⟨k, address⟩ c bs 0 0 := by
  refine ⟨by rw [add_zero], by rw [Kind.leaves, add_zero], fun _ hstores howns => ?_⟩
  rw [add_zero, add_zero]
  exact ⟨.box hstores howns, rfl⟩

/-- The box is in the first value of a pair. -/
theorem first (h : Focus m r k v c bs path b d ds rest plains) (hother : Owns m other w a as)
    (hroom : e.size = 0 → k.element.size = 0 ∧ other.element.size = 0) :
    Focus m r (.pair e k other) (.pair v w) (.pair c a) (bs + as) (.first :: path) b d ds (rest + as)
      (plains + other.leaves a) := by
  refine ⟨?_, ?_, fun hs hstores howns => ?_⟩
  · rw [h.boxes, Multiset.cons_add, add_assoc]
  · rw [Kind.leaves, h.leaves, add_assoc]
  · rw [Multiset.add_bind] at hs
    obtain ⟨hput, hleaves⟩ := h.put (hs.mono (Multiset.le_add_right _ _)) hstores howns
    rw [← add_assoc, ← Multiset.cons_add, Kind.put, Kind.leaves, hleaves, add_assoc]
    exact ⟨.pair hroom hput (hother.frame (hs.mono (Multiset.le_add_left _ _))), rfl⟩

/-- The box is in the second value of a pair. -/
theorem second (h : Focus m r k v c bs path b d ds rest plains) (hother : Owns m other w a as)
    (hroom : e.size = 0 → other.element.size = 0 ∧ k.element.size = 0) :
    Focus m r (.pair e other k) (.pair w v) (.pair a c) (as + bs) (.second :: path) b d ds (as + rest)
      (other.leaves a + plains) := by
  refine ⟨?_, ?_, fun hs hstores howns => ?_⟩
  · rw [h.boxes, Multiset.add_cons, add_left_comm]
  · rw [Kind.leaves, h.leaves, add_left_comm]
  · rw [Multiset.add_bind] at hs
    obtain ⟨hput, hleaves⟩ := h.put (hs.mono (Multiset.le_add_left _ _)) hstores howns
    rw [add_left_comm, ← Multiset.add_cons, Kind.put, Kind.leaves, hleaves, add_left_comm]
    exact ⟨.pair hroom (hother.frame (hs.mono (Multiset.le_add_right _ _))) hput, rfl⟩

/-- The box is in a box. -/
theorem inside (h : Focus m r k v c bs path b d ds rest plains) {address : Nat}
    (hstores : Boxed.Stores ⟨k, address⟩ m v) :
    Focus m r (.box k) (.pointer address) c (⟨k, address⟩ ::ₘ bs) (.inside :: path) b d ds
      (⟨k, address⟩ ::ₘ rest) plains := by
  refine ⟨?_, h.leaves, fun hs hstores' howns => ?_⟩
  · rw [h.boxes, Multiset.add_cons, Multiset.cons_swap]
  · rw [Multiset.cons_bind] at hs
    obtain ⟨hput, hleaves⟩ := h.put (hs.mono (Multiset.le_add_left _ _)) hstores' howns
    rw [Multiset.add_cons, Multiset.cons_swap]
    exact ⟨.box (hstores.frame (hs.mono (Multiset.le_add_right _ _))) hput, hleaves⟩

end Focus

/-- **The box to which turns lead** stores a value of its own, and the whole value can be seen from it. -/
theorem Owns.focus (h : Owns m k v c bs) (r : Registry) : ∀ {path : List Turn} {b : Boxed},
    Boxed.reach? m k v path = some b → ∃ u d ds rest plains, b.Stores m u ∧ Owns m b.kind u d ds ∧
      Focus m r k v c bs path b d ds rest plains := by
  induction h with
  | plain =>
    intro path b hb
    rw [Boxed.reach?_plain] at hb
    cases hb
  | pair hroom hfirst hsecond ihfirst ihsecond =>
    intro path b hb
    rcases path with _ | ⟨turn, path⟩
    · cases hb
    cases turn with
    | first =>
      obtain ⟨u, d, ds, rest, plains, hstores, howns, hfocus⟩ := ihfirst hb
      exact ⟨u, d, ds, _, _, hstores, howns, hfocus.first hsecond hroom⟩
    | second =>
      obtain ⟨u, d, ds, rest, plains, hstores, howns, hfocus⟩ := ihsecond hb
      exact ⟨u, d, ds, _, _, hstores, howns, hfocus.second hfirst hroom⟩
    | inside => cases hb
  | box hstores hinner ih =>
    intro path b hb
    rcases path with _ | ⟨turn, path⟩
    · obtain rfl := Option.some.inj hb
      exact ⟨_, _, _, _, _, hstores, hinner, .here m r _ _ _ _⟩
    cases turn with
    | first => cases hb
    | second => cases hb
    | inside =>
      rw [Boxed.reach?, hstores.value?] at hb
      obtain ⟨u, d, ds, rest, plains, hstores', howns, hfocus⟩ := ih hb
      exact ⟨u, d, ds, _, _, hstores', howns, hfocus.inside hstores⟩

end BlockHeap
