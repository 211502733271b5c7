import BlockHeap.Proofs.Owned.Boxes
import BlockHeap.Proofs.Owned.Owner

/-!
# Values and blocks are conserved

An owner is *in order* (`Owner.InOrder`) when every value in hand owns its boxes and says what it should, the blocks in
use are those of the boxes and those held through allocators, and the plain values that came to be are those that were
destroyed and those in hand. Whatever the owner does keeps this up (`Owner.step_inOrder`), so it holds after any number
of things done (`Owner.run_conserves`): refused mappings, boxes in boxes and the use of blocks for something else make
no difference.
-/

namespace BlockHeap

theorem coe_of_pick? {α : Type} {l rest : List α} {i : Nat} {x : α} (h : pick? l i = some (x, rest)) :
    (l : Multiset α) = x ::ₘ (rest : Multiset α) := by
  obtain ⟨y, hy, heq⟩ := Option.map_eq_some_iff.mp h
  obtain ⟨rfl, rfl⟩ := Prod.mk.inj heq
  obtain ⟨hlt, rfl⟩ := List.getElem?_eq_some_iff.mp hy
  exact coe_eq_cons_eraseIdx hlt

variable {os : Os} {policy : Policy} {m m' : Memory} {r : Registry} {k inner : Kind} {v : Value} {said : Contents}
  {bs : Multiset Boxed} {x y : Held} {hands : Multiset Held}

/-! ## Values in hand -/

namespace Held

/-- A value in hand owns its boxes, and says what it should. -/
def Owned (m : Memory) (x : Held) : Prop := Owns m x.kind x.value x.said (x.boxes m)

/-- The blocks of the boxes that values own. -/
def rooms (r : Registry) (m : Memory) (hands : Multiset Held) : Multiset Block :=
  (hands.bind (boxes m)).bind (Boxed.rooms r)

theorem rooms_cons (r : Registry) (m : Memory) (x : Held) (hands : Multiset Held) :
    rooms r m (x ::ₘ hands) = (x.boxes m).bind (Boxed.rooms r) + rooms r m hands := by
  rw [rooms, Multiset.cons_bind, Multiset.add_bind, rooms]

theorem rooms_add (r : Registry) (m : Memory) (hands hands' : Multiset Held) :
    rooms r m (hands + hands') = rooms r m hands + rooms r m hands' := by
  rw [rooms, Multiset.add_bind, Multiset.add_bind, rooms, rooms]

theorem leaves_cons (x : Held) (hands : Multiset Held) : leaves (x ::ₘ hands) = x.kind.leaves x.said + leaves hands :=
  Multiset.cons_bind x hands _

theorem leaves_add (hands hands' : Multiset Held) : leaves (hands + hands') = leaves hands + leaves hands' :=
  Multiset.add_bind hands hands' _

/-- **Values in hand stay what they are** when objects in the rooms of their boxes stay where they are. -/
theorem frame (howned : ∀ x ∈ hands, x.Owned m) (hs : m.Spares m' (rooms r m hands)) :
    (∀ x ∈ hands, x.Owned m') ∧ rooms r m' hands = rooms r m hands := by
  have hstay : ∀ x ∈ hands, x.Owned m' ∧ x.boxes m' = x.boxes m := by
    intro x hx
    have hle : (x.boxes m).bind (Boxed.rooms r) ≤ rooms r m hands := by
      obtain ⟨rest, rfl⟩ := Multiset.exists_cons_of_mem hx
      rw [rooms_cons]
      exact Multiset.le_add_right _ _
    have howns : Owns m' x.kind x.value x.said (x.boxes m) := Owns.frame (howned x hx) (hs.mono hle)
    have hboxes : x.boxes m' = x.boxes m := howns.boxesOf_eq
    refine ⟨?_, hboxes⟩
    rw [Owned, hboxes]
    exact howns
  refine ⟨fun x hx => (hstay x hx).1, ?_⟩
  rw [rooms, Multiset.bind_congr fun x hx => (hstay x hx).2, rooms]

theorem read?_eq (x : Held) (m : Memory) : x.read? m = Boxed.contentsOf? m x.kind x.value := by
  unfold read?
  split
  · rw [Boxed.contents?, Boxed.contentsOf?]
  · rfl

/-- A box in hand is destroyed like any other value. -/
theorem destroy_eq (r : Registry) (c : Call Destroyed) (x : Held) :
    x.destroy r c = Boxed.destroyValue r c x.kind x.value := by
  unfold destroy
  split
  · exact Boxed.destroy_eq r c _
  · rfl

end Held

theorem Lot.rooms_cons (r : Registry) (l : Lot) (lots : Multiset Lot) :
    Lot.rooms r (l ::ₘ lots) = Allocator.rooms ⟨r, l.element⟩ l.count l.address + Lot.rooms r lots :=
  Multiset.cons_bind l lots _

/-- A value that owns something, in hand. -/
theorem Owns.held (h : Owns m k v said bs) : Held.Owned m ⟨k, v, said⟩ ∧ Held.boxes m ⟨k, v, said⟩ = bs := by
  have hboxes : Held.boxes m ⟨k, v, said⟩ = bs := h.boxesOf_eq
  refine ⟨?_, hboxes⟩
  rw [Held.Owned, hboxes]
  exact h

theorem Owns.box_inv {address : Nat} (h : Owns m (.box inner) (.pointer address) said bs) :
    ∃ w ds, bs = ⟨inner, address⟩ ::ₘ ds ∧ Boxed.Stores ⟨inner, address⟩ m w ∧ Owns m inner w said ds := by
  cases h with
  | box hstores hinner => exact ⟨_, _, rfl, hstores, hinner⟩

theorem Owns.pair_inv {e : Element} {first second : Kind} {w : Value} {a b : Contents}
    (h : Owns m (.pair e first second) (.pair v w) (.pair a b) bs) :
    ∃ cs ds, bs = cs + ds ∧ Owns m first v a cs ∧ Owns m second w b ds := by
  cases h with
  | pair _ hfirst hsecond => exact ⟨_, _, rfl, hfirst, hsecond⟩

/-! ## Owners in order -/

namespace Owner

/-- Every value in hand owns its boxes and says what it should, the blocks in use are those of the owner, and what came
to be was destroyed or is in hand. -/
structure InOrder (os : Os) (policy : Policy) (s : Owner) : Prop where
  faultless : s.faulted = false
  owned : ∀ x ∈ (s.hands : Multiset Held), x.Owned s.heap.memory
  lends : s.heap.Lends os policy (Held.rooms ⟨policy, 0⟩ s.heap.memory s.hands + Lot.rooms ⟨policy, 0⟩ s.lots)
  once : (s.made : Multiset (Kind × Contents)) = s.destroyed + Held.leaves s.hands

variable {s : Owner} {gone : Multiset (Kind × Contents)} {kept : Multiset Block} {rest : List Held} {lots : List Lot}

namespace InOrder

/-- Other values are in hand, which own the same boxes. -/
theorem regroup (hs : s.InOrder os policy) {hands : List Held} {made : List (Kind × Contents)}
    (howned : ∀ x ∈ (hands : Multiset Held), x.Owned s.heap.memory)
    (hrooms : Held.rooms ⟨policy, 0⟩ s.heap.memory hands = Held.rooms ⟨policy, 0⟩ s.heap.memory s.hands)
    (honce : (made : Multiset (Kind × Contents)) = s.destroyed + Held.leaves hands) :
    InOrder os policy { s with hands, made } := by
  refine ⟨hs.faultless, howned, ?_, honce⟩
  dsimp only
  rw [hrooms]
  exact hs.lends

/-- After a call some values are new in hand, and the rest of them are as they were. -/
theorem after (hs : s.InOrder os policy) {refusals : List Bool} {d : Call Destroyed} (new : Multiset Held)
    {hands : List Held} (hhands : (hands : Multiset Held) = new + rest)
    (hrest : ∀ z ∈ (rest : Multiset Held), z ∈ (s.hands : Multiset Held))
    (hpast : (s.call refusals).Passes os policy d gone (Held.rooms ⟨policy, 0⟩ d.heap.memory new +
      (Held.rooms ⟨policy, 0⟩ s.heap.memory rest + Lot.rooms ⟨policy, 0⟩ lots)) kept)
    (hkept : Held.rooms ⟨policy, 0⟩ s.heap.memory rest ≤ kept) (hnew : ∀ z ∈ new, z.Owned d.heap.memory)
    (honce : Held.leaves s.hands = gone + (Held.leaves new + Held.leaves rest)) :
    (s.after d hands lots).InOrder os policy := by
  have hspares : s.heap.memory.Spares d.heap.memory (Held.rooms ⟨policy, 0⟩ s.heap.memory rest) :=
    hpast.spares.mono hkept
  obtain ⟨hstay, hrooms⟩ := Held.frame (fun z hz => hs.owned z (hrest z hz)) hspares
  refine ⟨hs.faultless, fun z hz => ?_, ?_, ?_⟩
  · rw [Owner.after, hhands] at hz
    exact (Multiset.mem_add.mp hz).elim (hnew z) (hstay z)
  · rw [Owner.after, hhands, Held.rooms_add, hrooms, add_assoc]
    exact hpast.lends
  · have hgone := hpast.gone
    rw [show (s.call refusals).rest.toList = [] from rfl, Multiset.coe_nil, zero_add] at hgone
    rw [Owner.after, hhands, Held.leaves_add, ← Multiset.coe_add, hgone, hs.once, honce, add_assoc]

/-- **After a call with a new value**, which owns what is known of it. -/
theorem after_cons (hs : s.InOrder os policy) {refusals : List Bool} {d : Call Destroyed}
    (hrest : ∀ z ∈ (rest : Multiset Held), z ∈ (s.hands : Multiset Held))
    (hpast : (s.call refusals).Passes os policy d gone (bs.bind (Boxed.rooms ⟨policy, 0⟩) +
      (Held.rooms ⟨policy, 0⟩ s.heap.memory rest + Lot.rooms ⟨policy, 0⟩ lots)) kept)
    (hkept : Held.rooms ⟨policy, 0⟩ s.heap.memory rest ≤ kept) (hnew : Owns d.heap.memory k v said bs)
    (honce : Held.leaves s.hands = gone + (k.leaves said + Held.leaves rest)) :
    (s.after d (⟨k, v, said⟩ :: rest) lots).InOrder os policy := by
  let x : Held := ⟨k, v, said⟩
  obtain ⟨howned, hboxes⟩ : x.Owned d.heap.memory ∧ x.boxes d.heap.memory = bs := hnew.held
  have hrooms : Held.rooms ⟨policy, 0⟩ d.heap.memory {x} = bs.bind (Boxed.rooms ⟨policy, 0⟩) := by
    rw [← Multiset.cons_zero, Held.rooms_cons, hboxes, show Held.rooms _ _ 0 = 0 from rfl, add_zero]
  have hleaves : Held.leaves {x} = k.leaves said := by
    rw [← Multiset.cons_zero, Held.leaves_cons, show Held.leaves 0 = 0 from rfl, add_zero]
  rw [← hrooms] at hpast
  rw [← hleaves] at honce
  refine hs.after {x} ?_ hrest hpast hkept (fun z hz => ?_) honce
  · rw [← Multiset.cons_coe, Multiset.singleton_add]
  · rw [Multiset.mem_singleton.mp hz]
    exact howned

/-- **After a call without a new value.** -/
theorem after_rest (hs : s.InOrder os policy) {refusals : List Bool} {d : Call Destroyed}
    (hrest : ∀ z ∈ (rest : Multiset Held), z ∈ (s.hands : Multiset Held))
    (hpast : (s.call refusals).Passes os policy d gone
      (Held.rooms ⟨policy, 0⟩ s.heap.memory rest + Lot.rooms ⟨policy, 0⟩ lots) kept)
    (hkept : Held.rooms ⟨policy, 0⟩ s.heap.memory rest ≤ kept)
    (honce : Held.leaves s.hands = gone + Held.leaves rest) : (s.after d rest lots).InOrder os policy := by
  have hpast : (s.call refusals).Passes os policy d gone (Held.rooms ⟨policy, 0⟩ d.heap.memory 0 +
      (Held.rooms ⟨policy, 0⟩ s.heap.memory rest + Lot.rooms ⟨policy, 0⟩ lots)) kept := by
    rw [show Held.rooms _ _ 0 = 0 from rfl, zero_add]
    exact hpast
  refine hs.after 0 (zero_add _).symm hrest hpast hkept (fun z hz => absurd hz (Multiset.notMem_zero z)) ?_
  rw [show Held.leaves 0 = 0 from rfl, zero_add]
  exact honce

/-! ### Plain values and pairs -/

theorem make (hs : s.InOrder os policy) (kind : Kind) (said : Contents) : (s.make kind said).InOrder os policy := by
  unfold Owner.make
  split
  · rename_i hadmits
    obtain ⟨howned, hboxes⟩ := (Owns.plain (m := s.heap.memory) hadmits).held
    refine hs.regroup (Multiset.forall_mem_cons.mpr ⟨howned, hs.owned⟩) ?_ ?_
    · rw [← Multiset.cons_coe, Held.rooms_cons, hboxes, Multiset.zero_bind, zero_add]
    · rw [← Multiset.coe_add, hs.once, ← Multiset.cons_coe _ s.hands, Held.leaves_cons,
        Kind.leaves_of_isPlain hadmits.1, Multiset.coe_singleton]
      abel
  · exact hs

theorem join (hs : s.InOrder os policy) (hhands : (s.hands : Multiset Held) = x ::ₘ y ::ₘ (rest : Multiset Held))
    (element : Element) : (s.join x y rest element).InOrder os policy := by
  unfold Owner.join
  split
  · rename_i hroom
    have howned := hs.owned
    rw [hhands, Multiset.forall_mem_cons, Multiset.forall_mem_cons] at howned
    obtain ⟨hx, hy, hrest⟩ := howned
    obtain ⟨hpair, hboxes⟩ := (Owns.pair hroom hx hy).held
    refine hs.regroup (Multiset.forall_mem_cons.mpr ⟨hpair, hrest⟩) ?_ ?_
    · rw [hhands, ← Multiset.cons_coe, Held.rooms_cons, Held.rooms_cons, Held.rooms_cons, hboxes, Multiset.add_bind,
        add_assoc]
    · rw [hs.once, hhands, ← Multiset.cons_coe, Held.leaves_cons, Held.leaves_cons, Held.leaves_cons, Kind.leaves,
        add_assoc (x.kind.leaves x.said)]
  · exact hs

theorem part (hs : s.InOrder os policy) (hhands : (s.hands : Multiset Held) = x ::ₘ (rest : Multiset Held)) :
    (s.part x rest).InOrder os policy := by
  unfold Owner.part
  split
  · have howned := hs.owned
    rw [hhands, Multiset.forall_mem_cons] at howned
    obtain ⟨hx, hrest⟩ := howned
    obtain ⟨bs, ds, hboxes, hfirst, hsecond⟩ := Owns.pair_inv hx
    obtain ⟨hv, hvboxes⟩ := hfirst.held
    obtain ⟨hw, hwboxes⟩ := hsecond.held
    refine hs.regroup (Multiset.forall_mem_cons.mpr ⟨hv, Multiset.forall_mem_cons.mpr ⟨hw, hrest⟩⟩) ?_ ?_
    · rw [hhands, ← Multiset.cons_coe, ← Multiset.cons_coe, Held.rooms_cons, Held.rooms_cons, Held.rooms_cons, hboxes,
        hvboxes, hwboxes, Multiset.add_bind, add_assoc]
    · rw [hs.once, hhands, ← Multiset.cons_coe, ← Multiset.cons_coe, Held.leaves_cons, Held.leaves_cons,
        Held.leaves_cons, Kind.leaves, add_assoc (Kind.leaves _ _)]
  · exact hs

/-! ### Boxes -/

section Boxes

variable (hs : s.InOrder os policy)

include hs

/-- One value in hand, the others, and the blocks in use. -/
theorem picked (hhands : (s.hands : Multiset Held) = x ::ₘ (rest : Multiset Held)) : x.Owned s.heap.memory ∧
    (∀ z ∈ (rest : Multiset Held), z ∈ (s.hands : Multiset Held)) ∧
    s.heap.Lends os policy ((x.boxes s.heap.memory).bind (Boxed.rooms ⟨policy, 0⟩) +
      (Held.rooms ⟨policy, 0⟩ s.heap.memory rest + Lot.rooms ⟨policy, 0⟩ s.lots)) ∧
    Held.leaves s.hands = x.kind.leaves x.said + Held.leaves rest := by
  have hl := hs.lends
  have howned := hs.owned
  rw [hhands] at hl howned ⊢
  rw [Held.rooms_cons, add_assoc] at hl
  exact ⟨howned x (Multiset.mem_cons_self x _), fun z hz => Multiset.mem_cons_of_mem hz, hl, Held.leaves_cons x _⟩

/-- Two values in hand, the others, and the blocks in use. -/
theorem pickedTwo (hhands : (s.hands : Multiset Held) = y ::ₘ x ::ₘ (rest : Multiset Held)) :
    y.Owned s.heap.memory ∧ x.Owned s.heap.memory ∧ (∀ z ∈ (rest : Multiset Held), z ∈ (s.hands : Multiset Held)) ∧
    s.heap.Lends os policy ((y.boxes s.heap.memory).bind (Boxed.rooms ⟨policy, 0⟩) +
      ((x.boxes s.heap.memory).bind (Boxed.rooms ⟨policy, 0⟩) +
        (Held.rooms ⟨policy, 0⟩ s.heap.memory rest + Lot.rooms ⟨policy, 0⟩ s.lots))) ∧
    Held.leaves s.hands = y.kind.leaves y.said + (x.kind.leaves x.said + Held.leaves rest) := by
  have hl := hs.lends
  have howned := hs.owned
  rw [hhands] at hl howned ⊢
  rw [Held.rooms_cons, Held.rooms_cons, add_assoc, add_assoc] at hl
  rw [Multiset.forall_mem_cons, Multiset.forall_mem_cons] at howned
  refine ⟨howned.1, howned.2.1, fun z hz => Multiset.mem_cons_of_mem (Multiset.mem_cons_of_mem hz), hl, ?_⟩
  rw [Held.leaves_cons, Held.leaves_cons]

/-- **A value is moved into a new box**, or destroyed. -/
theorem enclose (hhands : (s.hands : Multiset Held) = x ::ₘ (rest : Multiset Held)) (refusals : List Bool) :
    (s.enclose ⟨policy, 0⟩ x rest refusals).InOrder os policy := by
  obtain ⟨hx, hrest, hl, hleaves⟩ := hs.picked hhands
  unfold Owner.enclose
  rcases Boxed.ofValue_passes hx hl refusals with ⟨b, d, hd, hb, hpast, howns⟩ | ⟨e, d, hd, hpast⟩
  · rw [Owner.call, hd]
    dsimp only
    rw [hb]
    exact hs.after_cons hrest hpast (Multiset.le_add_right _ _) howns (by rw [zero_add]; exact hleaves)
  · rw [Owner.call, hd]
    exact hs.after_rest hrest hpast (Multiset.le_add_right _ _) hleaves

/-- **A value is moved out of its box.** -/
theorem moveOut (hhands : (s.hands : Multiset Held) = x ::ₘ (rest : Multiset Held)) :
    (s.moveOut ⟨policy, 0⟩ x rest).InOrder os policy := by
  obtain ⟨hx, hrest, hl, hleaves⟩ := hs.picked hhands
  unfold Owner.moveOut
  split
  · obtain ⟨w, ds, hboxes, hstores, howns⟩ := Owns.box_inv hx
    rw [hboxes, Multiset.cons_bind, add_assoc] at hl
    obtain ⟨d, hd, howns', hpast⟩ := Boxed.moveOut_passes (c := s.call []) hstores howns hl
    rw [hd]
    refine hs.after_cons hrest hpast ?_ howns' (by rw [zero_add]; exact hleaves)
    rw [add_left_comm]
    exact Multiset.le_add_right _ _
  · exact hs

/-- **A value is destroyed.** -/
theorem destroy (hhands : (s.hands : Multiset Held) = x ::ₘ (rest : Multiset Held)) :
    (s.destroy ⟨policy, 0⟩ x rest).InOrder os policy := by
  obtain ⟨hx, hrest, hl, hleaves⟩ := hs.picked hhands
  obtain ⟨d, hd, hpast⟩ := Boxed.destroyValue_passes (c := s.call []) x.kind hx hl
  unfold Owner.destroy
  rw [Held.destroy_eq, hd]
  exact hs.after_rest hrest hpast (Multiset.le_add_right _ _) hleaves

/-- **A value takes the place of the one in a box** inside another value. -/
theorem replace (hhands : (s.hands : Multiset Held) = y ::ₘ x ::ₘ (rest : Multiset Held)) (path : List Turn) :
    (s.replace ⟨policy, 0⟩ y x rest path).InOrder os policy := by
  unfold Owner.replace
  split
  · exact hs
  rename_i b hb
  split
  swap
  · exact hs
  rename_i hkind
  obtain ⟨hy, hx, hrest, hl, hleaves⟩ := hs.pickedTwo hhands
  obtain ⟨u, old, ds, around, plains, hstores, hold, hfocus⟩ := hx.focus ⟨policy, 0⟩ hb
  -- the block of the box, then those of the boxes inside it
  have hsum : ∀ a b c d e : Multiset Block, a + (b + (c + d) + e) = b + c + (a + (d + e)) := by
    intros
    abel
  rw [hfocus.boxes, Multiset.cons_bind, Multiset.add_bind, hsum] at hl
  have hy : Owns s.heap.memory b.kind y.value y.said (y.boxes s.heap.memory) := hkind ▸ hy
  obtain ⟨d, hd, hstores', hnew, hpast⟩ := Boxed.replace_passes (c := s.call []) hstores hold hy hl
  rw [hd]
  have haround : s.heap.memory.Spares d.heap.memory (around.bind (Boxed.rooms ⟨policy, 0⟩)) :=
    hpast.spares.mono ((Multiset.le_add_right _ _).trans (Multiset.le_add_left _ _))
  obtain ⟨howns, hput⟩ := hfocus.put haround hstores' hnew
  have hlends := hpast.lends
  rw [← add_assoc, ← add_assoc, add_assoc (Boxed.rooms _ _), ← Multiset.add_bind, ← Multiset.cons_bind] at hlends
  refine hs.after_cons hrest ⟨hpast.gone, hlends, hpast.spares⟩ ?_ howns ?_
  · exact ((Multiset.le_add_right _ _).trans (Multiset.le_add_left _ _)).trans (Multiset.le_add_left _ _)
  · rw [hleaves, hfocus.leaves, hput, ← hkind]
    abel

/-! ### Memory for elements -/

/-- After a call about memory for elements the values in hand are as they were. -/
theorem after_lots {d : Call Destroyed} (hrest : d.rest = #[])
    (hlends : d.heap.Lends os policy (Held.rooms ⟨policy, 0⟩ s.heap.memory s.hands + Lot.rooms ⟨policy, 0⟩ lots))
    (hspares : s.heap.memory.Spares d.heap.memory (Held.rooms ⟨policy, 0⟩ s.heap.memory s.hands + kept)) :
    (s.after d s.hands lots).InOrder os policy :=
  hs.after_rest (fun _ hz => hz) (.of_rest (c := s.call []) hrest hlends hspares) (Multiset.le_add_right _ _)
    (zero_add _).symm

/-- **Memory for elements is asked for**, and granted or not. -/
theorem allocate (element : Element) (count : Nat) (refusals : List Bool) :
    (s.allocate ⟨policy, 0⟩ element count refusals).InOrder os policy := by
  unfold Owner.allocate
  obtain ⟨answer, d, hd, hrest, hspares, ⟨p, rfl, hlends⟩ | ⟨e, rfl, hlends⟩⟩ :=
    hs.lends.allocate_elements element count #[] refusals
  · rw [Owner.call, hd]
    refine hs.after_lots hrest ?_ hspares
    rw [← Multiset.cons_coe, Lot.rooms_cons, add_left_comm]
    exact hlends
  · rw [Owner.call, hd]
    exact hs.after_lots hrest hlends hspares

variable {l : Lot} {others : List Lot} (hlots : (s.lots : Multiset Lot) = l ::ₘ (others : Multiset Lot))

include hlots

/-- One of the lots, and the blocks in use. -/
theorem lot : s.heap.Lends os policy (Allocator.rooms ⟨⟨policy, 0⟩, l.element⟩ l.count l.address +
    (Held.rooms ⟨policy, 0⟩ s.heap.memory s.hands + Lot.rooms ⟨policy, 0⟩ others)) := by
  have hl := hs.lends
  rwa [hlots, Lot.rooms_cons, add_left_comm] at hl

/-- **Memory for elements is given back.** -/
theorem deallocate : (s.deallocate ⟨policy, 0⟩ l others).InOrder os policy := by
  unfold Owner.deallocate
  obtain ⟨d, hd, hrest, hlends, hspares⟩ := Heap.Lends.deallocate_elements (c := s.call []) (hs.lot hlots)
  rw [hd]
  exact hs.after_lots hrest hlends hspares

/-- **Something is written all over memory for elements.** -/
theorem fill (v : Value) :
    InOrder os policy { s with heap := { s.heap with memory := l.fill s.heap.memory v } } := by
  have hl := hs.lot hlots
  unfold Allocator.rooms at hl
  unfold Lot.fill
  split
  · exact hs
  rename_i hroom
  rw [if_neg hroom, Multiset.singleton_add] at hl
  obtain ⟨hlends, hspares⟩ := hl.write (.value v)
  obtain ⟨howned, hrooms⟩ := Held.frame hs.owned (hspares.mono (Multiset.le_add_right _ _))
  refine ⟨hs.faultless, howned, ?_, hs.once⟩
  dsimp only
  rw [hlots, Lot.rooms_cons, Allocator.rooms, if_neg hroom, add_left_comm, Multiset.singleton_add]
  exact hrooms ▸ hlends

end Boxes

end InOrder

/-! ## Runs -/

variable {s : Owner}

theorem InOrder.withHeld (hs : s.InOrder os policy) (i : Nat) {f : Held → List Held → Owner}
    (hf : ∀ (x : Held) (rest : List Held), (s.hands : Multiset Held) = x ::ₘ (rest : Multiset Held) →
      (f x rest).InOrder os policy) :
    (s.withHeld i f).InOrder os policy := by
  unfold Owner.withHeld
  split
  · rename_i x rest hpick
    exact hf x rest (coe_of_pick? hpick)
  · exact hs

theorem InOrder.withTwo (hs : s.InOrder os policy) (i j : Nat) {f : Held → Held → List Held → Owner}
    (hf : ∀ (x y : Held) (rest : List Held), (s.hands : Multiset Held) = x ::ₘ y ::ₘ (rest : Multiset Held) →
      (f x y rest).InOrder os policy) : (s.withTwo i j f).InOrder os policy := by
  refine hs.withHeld i fun x rest hhands => ?_
  split
  · rename_i y rest' hpick
    exact hf x y rest' (by rw [hhands, coe_of_pick? hpick])
  · exact hs

theorem InOrder.withLot (hs : s.InOrder os policy) (i : Nat) {f : Lot → List Lot → Owner}
    (hf : ∀ (l : Lot) (rest : List Lot), (s.lots : Multiset Lot) = l ::ₘ (rest : Multiset Lot) →
      (f l rest).InOrder os policy) :
    (s.withLot i f).InOrder os policy := by
  unfold Owner.withLot
  split
  · rename_i l rest hpick
    exact hf l rest (coe_of_pick? hpick)
  · exact hs

/-- **Whatever the owner does keeps everything in order.** -/
theorem step_inOrder (hs : s.InOrder os policy) (deal : Deal) : (s.step ⟨policy, 0⟩ deal).InOrder os policy := by
  cases deal with
  | make kind said => exact hs.make kind said
  | join i j element => exact hs.withTwo i j fun x y rest hhands => hs.join hhands element
  | part i => exact hs.withHeld i fun x rest hhands => hs.part hhands
  | enclose i refusals => exact hs.withHeld i fun x rest hhands => hs.enclose hhands refusals
  | replace j i path => exact hs.withTwo j i fun y x rest hhands => hs.replace hhands path
  | moveOut i => exact hs.withHeld i fun x rest hhands => hs.moveOut hhands
  | destroy i => exact hs.withHeld i fun x rest hhands => hs.destroy hhands
  | allocate element count refusals => exact hs.allocate element count refusals
  | fill i v => exact hs.withLot i fun l rest hlots => hs.fill hlots v
  | deallocate i => exact hs.withLot i fun l rest hlots => hs.deallocate hlots

theorem run_inOrder (deals : List Deal) : ∀ {s : Owner}, s.InOrder os policy →
    (s.run ⟨policy, 0⟩ deals).InOrder os policy := by
  induction deals with
  | nil => exact fun hs => hs
  | cons deal deals ih => exact fun hs => ih (step_inOrder hs deal)

/-- Somebody with nothing, on the heap of a new registry. -/
theorem start_inOrder (hos : os.Sound) (policy : Policy) :
    (start (Registry.startHeap os policy)).InOrder os policy := by
  refine ⟨rfl, fun x hx => absurd hx List.not_mem_nil, ?_, rfl⟩
  exact Heap.Lends.start hos policy

/-- Values and blocks are conserved when everything is in order. -/
theorem InOrder.conserves (hs : s.InOrder os policy) : s.Conserves os ⟨policy, 0⟩ where
  faultless := hs.faultless
  reads x hx := by
    rw [Held.read?_eq]
    exact (hs.owned x hx).contentsOf?_eq
  once := hs.once
  live := hs.lends.sound
  apart b c hbc := hs.lends.sound.disjoint_of_pair hbc
  gone hnone := by
    have hlive := hs.lends.sound
    rwa [Held.rooms, show (s.hands : Multiset Held).bind (Held.boxes s.heap.memory) = 0 from hnone, Multiset.zero_bind,
      zero_add] at hlive

/-- **Boxes conserve values and blocks.** On the heap of a new registry, whatever somebody does with boxes of any types
and with memory from allocators, and whichever mappings are refused: no call goes wrong, every value says what was last
written to it, every value that came to be is destroyed just once or still there, and the blocks in use are those of the
boxes whose values take room, one for each, and those held through allocators. -/
theorem run_conserves (hos : os.Sound) (policy : Policy) (deals : List Deal) :
    ∃ r h, Registry.create (Heap.onOs os) policy = (.ok r, h) ∧ ((start h).run r deals).Conserves os r :=
  ⟨_, _, Registry.create_eq os policy, (run_inOrder deals (start_inOrder hos policy)).conserves⟩

/-- A box in a box, a box for more than any size class, and one for a value without room; memory for ten elements; a box
for which there is no mapping. Then another value takes the place of the one in the inner box, the first box is opened,
and something is written all over the memory for elements. -/
def boxesRun : List Deal :=
  [.make .tracked (.text "a"), .enclose 0 [], .enclose 0 [], .make (.data ⟨8388608, 8⟩) (.text "large"), .enclose 0 [],
    .make .unit .unit, .enclose 0 [], .allocate ⟨8, 8⟩ 10 [], .make (.data ⟨3000, 4⟩) (.text "lost"),
    .enclose 0 [true], .make .tracked (.text "b"), .replace 0 2 [.inside], .moveOut 0, .fill 0 (.plain (.text "x"))]

/-- After `boxesRun` the value that could not be boxed and the one that was replaced are destroyed; three boxes are
left, two of which have a block, and one block is held for the elements. -/
theorem run_conserves_boxes : Os.standard.Sound ∧
    ∃ r h, Registry.create (Heap.onOs .standard) .threadLocal = (.ok r, h) ∧
      let s := (start h).run r boxesRun
      s.Conserves .standard r ∧ s.destroyed = [(.data ⟨3000, 4⟩, .text "lost"), (.tracked, .text "a")] ∧
      s.hands.map (·.read? s.heap.memory) = [some (.text "b"), some .unit, some (.text "large")] ∧
      Multiset.card s.boxes = 3 ∧ Multiset.card (s.blocks r) = 3 ∧ Multiset.card (s.lent r) = 1 := by
  obtain ⟨r, h, hcreate, hconserves⟩ := run_conserves Os.standard_sound .threadLocal boxesRun
  refine ⟨Os.standard_sound, r, h, hcreate, hconserves, ?_⟩
  rw [Registry.create_eq] at hcreate
  cases hcreate
  decide +kernel

end Owner

end BlockHeap
