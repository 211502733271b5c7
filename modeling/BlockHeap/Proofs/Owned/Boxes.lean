import BlockHeap.Proofs.Owned.Owns

/-!
# What is done with boxes

Whatever is done with a box, no more is known afterwards than before about who owns what: which values were destroyed on
the way, which blocks are in use then, and that objects in certain rooms stayed where they were (`Call.Passes`). There
is one such result for each of the things that can be done: destroying a value with all that it owns
(`Boxed.destroyValue_passes`), making a box (`Boxed.ofValue_passes`), putting a value into the place of another
(`Boxed.replace_passes`), and moving a value out (`Boxed.moveOut_passes`). None of them goes wrong; a box that cannot be
made leaves nothing behind of the value that was meant for it.
-/

namespace BlockHeap

/-- A call has got on: these values were destroyed, these blocks are in use now, and objects in the blocks that are kept
stayed where they were. -/
structure Call.Passes (os : Os) (policy : Policy) (c d : Call Destroyed) (gone : Multiset (Kind × Contents))
    (blocks kept : Multiset Block) : Prop where
  gone : (d.rest.toList : Multiset (Kind × Contents)) = c.rest.toList + gone
  lends : d.heap.Lends os policy blocks
  spares : c.heap.memory.Spares d.heap.memory kept

variable {os : Os} {policy : Policy} {c d e : Call Destroyed} {gone gone' : Multiset (Kind × Contents)}
  {blocks blocks' kept kept' : Multiset Block}

theorem Call.Passes.trans (h : c.Passes os policy d gone blocks kept) (h' : d.Passes os policy e gone' blocks' kept) :
    c.Passes os policy e (gone + gone') blocks' kept :=
  ⟨by rw [h'.gone, h.gone, add_assoc], h'.lends, h.spares.trans h'.spares⟩

/-- Nothing was destroyed in the second part. -/
theorem Call.Passes.trans_zero (h : c.Passes os policy d gone blocks kept) (h' : d.Passes os policy e 0 blocks' kept) :
    c.Passes os policy e gone blocks' kept := by
  have hboth := h.trans h'
  rwa [add_zero] at hboth

theorem Call.Passes.mono (h : c.Passes os policy d gone blocks kept) (hle : kept' ≤ kept) :
    c.Passes os policy d gone blocks kept' := ⟨h.gone, h.lends, h.spares.mono hle⟩

/-- Nothing was destroyed. -/
theorem Call.Passes.of_rest (hrest : d.rest = c.rest) (hl : d.heap.Lends os policy blocks)
    (hs : c.heap.memory.Spares d.heap.memory kept) : c.Passes os policy d 0 blocks kept :=
  ⟨by rw [hrest, add_zero], hl, hs⟩

namespace Boxed

variable {b : Boxed} {v w : Value} {k : Kind} {said old : Contents} {bs ds : Multiset Boxed} {others : Multiset Block}

/-! ## The room of a box -/

/-- **A value is written** to the place of a box. -/
theorem write_passes (hl : c.heap.Lends os policy (b.rooms ⟨policy, 0⟩ + others))
    (hv : b.kind.element.size = 0 → v = b.kind.only) :
    c.Passes os policy (write c b.kind b.address v) 0 (b.rooms ⟨policy, 0⟩ + others) others ∧
      b.Stores (write c b.kind b.address v).heap.memory v := by
  rw [write]
  split
  · rename_i hzero
    exact ⟨.of_rest rfl hl (.refl _ _), hv, fun hroom => absurd hzero hroom⟩
  · rename_i hroom
    rw [rooms_of_size_ne_zero _ hroom, Multiset.singleton_add] at hl ⊢
    obtain ⟨hlends, hspares⟩ := hl.write (.value v)
    exact ⟨.of_rest rfl hlends hspares, hv, fun _ => Memory.holds_write _ _ _ _⟩

/-- **The block of a box is returned.** -/
theorem release_passes (hl : c.heap.Lends os policy (b.rooms ⟨policy, 0⟩ + others)) :
    ∃ d, release ⟨policy, 0⟩ c b = (.ok (), d) ∧ c.Passes os policy d 0 others others := by
  rw [release]
  split
  · obtain ⟨d, hd, hrest, hlends, hspares⟩ := Heap.Lends.deallocate_elements hl
    exact ⟨d, hd, .of_rest hrest hlends hspares⟩
  · rename_i hroom
    have hrooms := rooms_of_size_ne_zero (b := b) ⟨policy, 0⟩ hroom
    rw [hrooms, Multiset.singleton_add] at hl
    obtain ⟨hlends, hspares⟩ := hl.erase
    rw [← Multiset.singleton_add, ← hrooms] at hlends
    let erased : Memory := c.heap.memory.erase b.address b.kind.element.size
    obtain ⟨d, hd, hrest, hlends', hspares'⟩ :=
      Heap.Lends.deallocate_elements (c := { c with heap := { c.heap with memory := erased } }) hlends
    exact ⟨d, hd, .of_rest hrest hlends' (hspares.trans hspares')⟩

/-! ## Values -/

theorem destroyValue_plain (r : Registry) (c : Call Destroyed) (h : k.isPlain = true) (said : Contents) :
    destroyValue r c k (.plain said) = (.ok (), { c with rest := c.rest.push (k, said) }) := by
  cases k with
  | pair => cases h
  | box => cases h
  | _ => rfl

/-- A plain value is destroyed. -/
theorem destroyPlain_passes (h : k.isPlain = true) (said : Contents) (hl : c.heap.Lends os policy others) :
    ∃ d, destroyValue ⟨policy, 0⟩ c k (.plain said) = (.ok (), d) ∧
      c.Passes os policy d (k.leaves said) others others := by
  refine ⟨_, destroyValue_plain _ c h said, ?_, hl, .refl _ _⟩
  rw [Kind.leaves_of_isPlain h, Array.toList_push, ← Multiset.coe_add, Multiset.coe_singleton]

/-- **A value is destroyed**, and with it all that it owns. -/
theorem destroyValue_passes (k : Kind) : ∀ {v : Value} {said : Contents} {bs : Multiset Boxed} {c : Call Destroyed}
    {others : Multiset Block}, Owns c.heap.memory k v said bs →
    c.heap.Lends os policy (bs.bind (rooms ⟨policy, 0⟩) + others) →
    ∃ d, destroyValue ⟨policy, 0⟩ c k v = (.ok (), d) ∧ c.Passes os policy d (k.leaves said) others others := by
  induction k with
  | pair e first second ihfirst ihsecond =>
    intro v said bs c others howns hl
    cases howns with
    | plain hadmits => cases hadmits.1
    | pair _ hfirst hsecond =>
      rw [Multiset.add_bind, add_assoc] at hl
      obtain ⟨c1, h1, hpast⟩ := ihfirst hfirst hl
      have hsecond := hsecond.frame (hpast.spares.mono (Multiset.le_add_right _ _))
      obtain ⟨c2, h2, hpast'⟩ := ihsecond hsecond hpast.lends
      refine ⟨c2, ?_, (hpast.mono (Multiset.le_add_left _ _)).trans hpast'⟩
      simp only [destroyValue, h1, h2]
  | box inner ih =>
    intro v said bs c others howns hl
    cases howns with
    | plain hadmits => cases hadmits.1
    | @box _ address v _ bs hstores hinner =>
      rw [Multiset.cons_bind, add_assoc, add_left_comm] at hl
      obtain ⟨c1, h1, hpast⟩ := ih hinner hl
      obtain ⟨c2, h2, hpast'⟩ := release_passes hpast.lends
      refine ⟨c2, ?_, ?_⟩
      · simp only [destroyValue, hstores.value?, h1, h2]
      · exact (hpast.mono (Multiset.le_add_left _ _)).trans_zero hpast'
  | _ =>
    intro v said bs c others howns hl
    cases howns with
    | plain hadmits =>
      rw [Multiset.zero_bind, zero_add] at hl
      exact destroyPlain_passes hadmits.1 said hl

/-! ## Boxes -/

/-- Destroying a box is destroying a value that is a box. -/
theorem destroy_eq (r : Registry) (c : Call Destroyed) (b : Boxed) :
    destroy r c b = destroyValue r c (.box b.kind) (.pointer b.address) := by
  rw [destroy, destroyValue]

/-- **A box is made** of a value, or else the value is destroyed. -/
theorem ofValue_passes {h : Heap} (howns : Owns h.memory k v said bs)
    (hl : h.Lends os policy (bs.bind (rooms ⟨policy, 0⟩) + others)) (refusals : List Bool) :
    let c := Call.asking h #[] refusals
    (∃ b d, ofValue ⟨policy, 0⟩ c k v = (.ok b, d) ∧ b.kind = k ∧
      c.Passes os policy d 0 ((b ::ₘ bs).bind (rooms ⟨policy, 0⟩) + others) others ∧
      Owns d.heap.memory (.box k) (.pointer b.address) said (b ::ₘ bs)) ∨
    (∃ e d, ofValue ⟨policy, 0⟩ c k v = (.error (.error e), d) ∧
      c.Passes os policy d (k.leaves said) others others) := by
  intro c
  obtain ⟨answer, c1, h1, hrest, hspares, ⟨p, rfl, hlends⟩ | ⟨e, rfl, hlends⟩⟩ :=
    hl.allocate_elements k.element 1 #[] refusals
  · let b : Boxed := ⟨k, p.address⟩
    have hlends : c1.heap.Lends os policy (b.rooms ⟨policy, 0⟩ + _) := hlends
    have howns1 := howns.frame (hspares.mono (Multiset.le_add_right _ _))
    obtain ⟨hpast, hstores⟩ := write_passes (b := b) hlends fun hzero => howns.eq_only hzero
    have howns2 := howns1.frame (hpast.spares.mono (Multiset.le_add_right _ _))
    refine .inl ⟨b, write c1 b.kind b.address v, ?_, rfl, ?_, .box hstores howns2⟩
    · cases p <;> simp only [ofValue, c, h1] <;> rfl
    · rw [Multiset.cons_bind, add_assoc]
      exact ((Call.Passes.of_rest (c := c) hrest hlends hspares).trans_zero hpast).mono (Multiset.le_add_left _ _)
  · have howns1 := howns.frame (hspares.mono (Multiset.le_add_right _ _))
    obtain ⟨d, hd, hpast⟩ := destroyValue_passes k howns1 hlends
    refine .inr ⟨e, d, ?_, ?_⟩
    · simp only [ofValue, c, h1, hd]
    · have hasked : c.Passes os policy c1 0 _ _ := .of_rest hrest hlends (hspares.mono (Multiset.le_add_left _ _))
      have hboth := hasked.trans hpast
      rwa [zero_add] at hboth

/-- **A value takes the place of another** in a box. The other one is destroyed. -/
theorem replace_passes (hstores : b.Stores c.heap.memory v) (hold : Owns c.heap.memory b.kind v old ds)
    (hnew : Owns c.heap.memory b.kind w said bs)
    (hl : c.heap.Lends os policy (b.rooms ⟨policy, 0⟩ + ds.bind (rooms ⟨policy, 0⟩) +
      (bs.bind (rooms ⟨policy, 0⟩) + others))) :
    ∃ d, replace ⟨policy, 0⟩ c b w = (.ok (), d) ∧ b.Stores d.heap.memory w ∧
      Owns d.heap.memory b.kind w said bs ∧
      c.Passes os policy d (b.kind.leaves old) (b.rooms ⟨policy, 0⟩ + (bs.bind (rooms ⟨policy, 0⟩) + others))
        (bs.bind (rooms ⟨policy, 0⟩) + others) := by
  rw [add_comm (b.rooms _), add_assoc] at hl
  obtain ⟨c1, h1, hpast⟩ := destroyValue_passes b.kind hold hl
  obtain ⟨hpast', hstores'⟩ := write_passes hpast.lends fun hzero => hnew.eq_only hzero
  have hboth := (hpast.mono (Multiset.le_add_left _ _)).trans_zero hpast'
  refine ⟨write c1 b.kind b.address w, ?_, hstores', ?_, hboth⟩
  · simp only [replace, hstores.value?, h1]
  · exact hnew.frame (hboth.spares.mono (Multiset.le_add_right _ _))

/-- **The value is moved out** of a box, and the block is returned. -/
theorem moveOut_passes (hstores : b.Stores c.heap.memory v) (howns : Owns c.heap.memory b.kind v said bs)
    (hl : c.heap.Lends os policy (b.rooms ⟨policy, 0⟩ + (bs.bind (rooms ⟨policy, 0⟩) + others))) :
    ∃ d, moveOut ⟨policy, 0⟩ c b = (.ok (some v), d) ∧ Owns d.heap.memory b.kind v said bs ∧
      c.Passes os policy d 0 (bs.bind (rooms ⟨policy, 0⟩) + others) (bs.bind (rooms ⟨policy, 0⟩) + others) := by
  obtain ⟨d, hd, hpast⟩ := release_passes hl
  refine ⟨d, ?_, howns.frame (hpast.spares.mono (Multiset.le_add_right _ _)), hpast⟩
  simp only [moveOut, hd, hstores.value?]

end Boxed

end BlockHeap
