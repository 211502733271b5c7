import BlockHeap.Proofs.Heap.Calls
import BlockHeap.Proofs.Pool.Honest

/-!
# Heaps whose users are careless

A heap is *regular* when its operating system is sound and its pools are regular, with the slots that growths in
progress have claimed. One heap *leads* to another when each pool comes to its later state by honest steps. What leads
on from a regular heap is regular (`Leads.regular`), and has all arenas where they were (`Leads.onward`).

A `Pact` is what others keep up while a call is in progress, apart from that: something about the heap and about
whatever else they work on, which no honest step ends. An interlude is *lawful* when it leads the heap on and keeps
the pact.
-/

namespace BlockHeap

open Pool (Growths)
open Pool.Growths (Comes Honest)

/-! ## The operating system -/

namespace Os

theorem Sound.map {os : Os} (h : os.Sound) (size : Nat) (refuse : Bool) : (os.map size refuse).2.Sound := by
  rcases h.map_spec size refuse with ⟨m, os', hmap, hsound, -⟩ | ⟨e, os', hmap, hsound, -⟩
  · rw [hmap]
    exact hsound
  · rw [hmap]
    exact hsound

/-- Giving back what may not be a mapping in place. -/
theorem Sound.unmap {os : Os} (h : os.Sound) (m : Mapping) : (os.unmap m).Sound := by
  by_cases hm : m ∈ os.space.live
  · exact (h.unmap_spec hm).1
  · rw [Os.unmap, if_neg hm]
    refine ⟨h.place, fun n hn => ?_, h.disjoint⟩
    obtain ⟨h1, h2, h3, h4⟩ := h.fits n hn
    exact ⟨h1, h2, h3, h4⟩

end Os

namespace Heap

variable {h h' h'' : Heap} {claimed claimed' claimed'' : Nat → List Nat} {k : Nat} {q : Pool}

/-- The operating system is sound and the pools are regular. -/
structure Regular (h : Heap) (claimed : Nat → List Nat) : Prop where
  os : h.os.Sound
  pools : ∀ k, (h.pool k).Regular (claimed k)

/-- The pools are those of an earlier heap at a later time. -/
def Onward (h h' : Heap) : Prop := ∀ k, (h.pool k).Onward (h'.pool k)

theorem Onward.refl (h : Heap) : h.Onward h := fun _ => .refl _

theorem Onward.trans (h1 : h.Onward h') (h2 : h'.Onward h'') : h.Onward h'' := fun k => (h1 k).trans (h2 k)

/-- Each pool comes to its later state by honest steps, whatever was logged before. -/
structure Leads (h : Heap) (claimed : Nat → List Nat) (h' : Heap) (claimed' : Nat → List Nat) : Prop where
  os : h.os.Sound → h'.os.Sound
  size : h'.pools.size = h.pools.size
  pools : ∀ k log, ∃ log', Comes ⟨h.pool k, claimed k, log⟩ ⟨h'.pool k, claimed' k, log'⟩

theorem Leads.refl (h : Heap) (claimed : Nat → List Nat) : h.Leads claimed h claimed :=
  ⟨id, rfl, fun _ log => ⟨log, .refl⟩⟩

theorem Leads.trans (h1 : h.Leads claimed h' claimed') (h2 : h'.Leads claimed' h'' claimed'') :
    h.Leads claimed h'' claimed'' := by
  refine ⟨h2.os ∘ h1.os, h2.size.trans h1.size, fun k log => ?_⟩
  obtain ⟨log', hc⟩ := h1.pools k log
  obtain ⟨log'', hc'⟩ := h2.pools k log'
  exact ⟨log'', hc.trans hc'⟩

/-- **What leads on from a regular heap is regular.** -/
theorem Leads.regular (hl : h.Leads claimed h' claimed') (hr : h.Regular claimed) : h'.Regular claimed' := by
  refine ⟨hl.os hr.os, fun k => ?_⟩
  obtain ⟨log, hc⟩ := hl.pools k []
  exact (hc.onward (hr.pools k)).1

/-- **The arenas are still there** in what leads on from a regular heap. -/
theorem Leads.onward (hl : h.Leads claimed h' claimed') (hr : h.Regular claimed) : h.Onward h' := by
  intro k
  obtain ⟨log, hc⟩ := hl.pools k []
  exact (hc.onward (hr.pools k)).2

/-- A step that changes no pool. -/
theorem Leads.of_pools (hos : h.os.Sound → h'.os.Sound) (hpools : h'.pools = h.pools) : h.Leads claimed h' claimed := by
  refine ⟨hos, by rw [hpools], fun k log => ⟨log, ?_⟩⟩
  rw [Heap.pool, Heap.pool, hpools]

/-- A step in one pool. -/
theorem Leads.setPool {slots : List Nat} (hk : k < h.pools.size)
    (hq : ∀ log, ∃ log', Honest ⟨h.pool k, claimed k, log⟩ ⟨q, slots, log'⟩) :
    h.Leads claimed (h.setPool k q) (Function.update claimed k slots) := by
  refine ⟨id, size_setPool q, fun j log => ?_⟩
  by_cases hj : j = k
  · subst hj
    obtain ⟨log', hstep⟩ := hq log
    refine ⟨log', .single ?_⟩
    rwa [pool_setPool_self hk, Function.update_self]
  · refine ⟨log, ?_⟩
    rw [pool_setPool_of_ne hj, Function.update_of_ne hj]

/-- Work in the arenas of one pool. -/
theorem Leads.work (hw : (h.pool k).Work q)
    (hstep : ∀ s : Growths, s.pool = h.pool k → Growths.Step s (s.withPool q)) :
    h.Leads claimed (h.setPool k q) claimed := by
  rcases Nat.lt_or_ge k h.pools.size with hk | hk
  · have hset : h.Leads claimed (h.setPool k q) (Function.update claimed k (claimed k)) :=
      .setPool hk fun log => ⟨log, Honest.of_work hw (hstep ⟨_, _, log⟩ rfl)⟩
    rwa [Function.update_eq_self] at hset
  · rw [setPool_of_le hk]
    exact .refl h claimed

end Heap

/-- What others keep up, whatever calls are in progress. -/
structure Pact (ε : Type) where
  /-- All is as agreed. -/
  Good : Heap × ε → Prop
  step : ∀ {h h' : Heap} {e : ε} {claimed claimed' : Nat → List Nat}, Good (h, e) → h.Regular claimed →
    h.Leads claimed h' claimed' → Good (h', e)

variable {ε : Type}

/-- The interlude leads the heap on, and keeps the pact. -/
def Pact.Lawful (P : Pact ε) (f : Interlude ε) : Prop :=
  ∀ (s : Heap × ε) (claimed : Nat → List Nat), s.1.Regular claimed → P.Good s →
    s.1.Leads claimed (f s).1 claimed ∧ P.Good (f s)

theorem Pact.lawful_id (P : Pact ε) : P.Lawful id := fun s claimed _ hs => ⟨.refl s.1 claimed, hs⟩

/-- The pact is kept so far, and the interludes to come are lawful. -/
structure Call.Fair (P : Pact ε) (c : Call ε) : Prop where
  good : P.Good (c.heap, c.rest)
  decisions : ∀ d ∈ c.decisions, P.Lawful d.meanwhile
  growths : ∀ f ∈ c.growths, P.Lawful f

end BlockHeap
