import BlockHeap.Proofs.Heap.Apart
import BlockHeap.Proofs.Heap.Outcome
import BlockHeap.Proofs.Run.Onward
import BlockHeap.Proofs.Typed.Requests

/-!
# Allocations leave objects alone

What lies in a mapping in place stays there while an allocation goes on: the mappings that the allocation asks for meet
none of those in place, and it changes memory in these new mappings only (`Source.allocate_holds`).
-/

namespace BlockHeap

/-- The addresses that an object takes. -/
def Placed.span (p : Placed) : Mapping := ⟨p.start, p.len⟩

theorem Placed.meets_eq_false {p : Placed} {start len : Nat} (h : p.span.Disjoint ⟨start, len⟩) :
    p.meets start len = false := by
  simp only [Mapping.Disjoint, Mapping.stop, span] at h
  simp only [meets, Bool.and_eq_false_iff, decide_eq_false_iff_not]
  omega

/-- A new mapping meets none of those in place. -/
theorem Os.Sound.disjoint_of_map {os os' : Os} (h : os.Sound) {size : Nat} {refuse : Bool} {m : Mapping}
    (hm : os.map size refuse = (.ok m, os')) :
    (∀ n ∈ os.space.live, n.Disjoint m) ∧ m.len = Size.roundUp size pageSize := by
  rcases h.map_spec size refuse with ⟨m', os'', h1, h2, h3, h4⟩ | ⟨e, os'', h1, -⟩
  · obtain ⟨hanswer, rfl⟩ := Prod.mk.inj (h1.symm.trans hm)
    obtain rfl := Except.ok.inj hanswer
    have hdisjoint := h2.disjoint
    rw [h3, List.pairwise_cons] at hdisjoint
    exact ⟨fun n hn => (hdisjoint.1 n hn).symm, h4⟩
  · rw [h1] at hm
    cases hm

variable {ε : Type} {h h' : Heap} {k : Nat} {p : Placed} {n : Mapping}

/-- An allocation from a pool that has its outcome leaves an object alone that lies in a mapping in place. -/
theorem Call.Outcome.holds {refuseRegion refuseHeader : Bool} {x : Except Failure Nat}
    (ho : Outcome h k refuseRegion refuseHeader x h') (hos : h.os.Sound) (hp : h.memory.Holds p)
    (hn : n ∈ h.os.space.live) (hin : p.span.Within n) : h'.memory.Holds p := by
  cases ho with
  | found => exact hp
  | exhausted => exact hp
  | regionRefused => exact hp
  | headerRefused _ _ hregion _ _ =>
    -- the region that is given back was not in place before
    have hdisjoint := (hos.disjoint_of_map hregion).1 n hn
    exact hp.erase (Placed.meets_eq_false (hdisjoint.within hin (.refl _)))
  | grown => exact hp

/-- Mapping an oversized block leaves an object alone that lies in a mapping in place. -/
theorem Call.mapOversized_holds (hos : h.os.Sound) (hp : h.memory.Holds p) (hlen : 0 < p.len)
    (hn : n ∈ h.os.space.live) (hin : p.span.Within n) (rest : ε) (refusals : List Bool) (size : Nat) :
    ((asking h rest refusals).mapOversized size).2.heap.memory.Holds p := by
  rcases Nat.lt_or_ge (Oversized.footprint size) Size.limit with hroom | hroom
  · cases hmap : h.os.map (Oversized.footprint size) (refusals.headD false) with
    | mk answer os =>
      have hasked := map_asking (c := asking h rest refusals) rfl hmap
      cases answer with
      | error e =>
        rw [mapOversized_refused hroom hasked]
        exact hp
      | ok m =>
        obtain ⟨hdisjoint, hmlen⟩ := hos.disjoint_of_map hmap
        rw [mapOversized_granted hroom hasked]
        -- the handle lies in the new mapping
        have hle : Oversized.footprint size ≤ m.len := by
          rw [hmlen]
          exact Size.le_roundUp (by decide) _
        have hhandle : Mapping.Within ⟨m.start + Size.roundUp size Oversized.handleAlign, Oversized.handleBytes⟩ m := by
          refine ⟨Nat.le_add_right _ _, ?_⟩
          unfold Oversized.footprint at hle
          simp only [Mapping.stop]
          omega
        have hapart := (hdisjoint n hn).within hin hhandle
        refine hp.write _ (Placed.meets_eq_false hapart) ?_
        have hbytes : Oversized.handleBytes = 16 := rfl
        simp only [Mapping.Disjoint, Mapping.stop, Placed.span] at hapart
        omega
  · rw [mapOversized_of_limit_le _ hroom]
    exact hp

/-- **An allocation leaves an object alone** that lies in a mapping in place. -/
theorem Source.allocate_holds {src : Source} {claimed : Nat → List Nat} (hr : h.Regular claimed) {bytes : Nat}
    (hsize : ∀ k, src.poolOf bytes = some k → k < h.pools.size) (hp : h.memory.Holds p) (hlen : 0 < p.len)
    (hn : n ∈ h.os.space.live) (hin : p.span.Within n) (rest : ε) (refusals : List Bool) :
    (src.allocate (Call.asking h rest refusals) bytes).2.heap.memory.Holds p := by
  rcases src.allocate_cases (Call.asking h rest refusals) bytes with ⟨k, hk, halloc⟩ | ⟨-, halloc⟩
  · rw [halloc]
    exact (Call.outcome_of_regular (hsize k hk) (hr.pools k) rest refusals).holds hr.os hp hn hin
  · rw [halloc]
    exact Call.mapOversized_holds hr.os hp hlen hn hin rest refusals bytes

end BlockHeap
