import BlockHeap.Os.Mapping
import Mathlib.Data.Multiset.Defs
import Mathlib.Data.Multiset.ZeroCons
import Mathlib.Data.Multiset.AddSub

/-!
# Mappings in place

An operating system is *sound* when its placement is, and its mappings in place are aligned to pages, not empty, inside
the address range and pairwise disjoint. Mapping adds a mapping to those in place (`Sound.map_spec`), never at address 0
(`Sound.start_pos`), unmapping removes one (`Sound.unmap_spec`), and both leave a sound operating system. The mappings
in place are `Apart`: any two of them share no address, and then nothing `Within` one shares an address with something
within another (`Disjoint.within`).
-/

namespace BlockHeap

/-- Any two of the mappings share no address. -/
def Mapping.Apart (s : Multiset Mapping) : Prop := ∀ m n, m ::ₘ {n} ≤ s → m.Disjoint n

theorem Mapping.Apart.mono {s t : Multiset Mapping} (h : Apart t) (hst : s ≤ t) : Apart s :=
  fun m n hmn => h m n (hmn.trans hst)

/-- All addresses of the first are addresses of the second. -/
def Mapping.Within (m n : Mapping) : Prop := n.start ≤ m.start ∧ m.stop ≤ n.stop

theorem Mapping.Within.refl (m : Mapping) : m.Within m := ⟨Nat.le_refl _, Nat.le_refl _⟩

theorem Mapping.Within.trans {l m n : Mapping} (h : l.Within m) (h' : m.Within n) : l.Within n :=
  ⟨Nat.le_trans h'.1 h.1, Nat.le_trans h.2 h'.2⟩

theorem Mapping.Disjoint.symm {m n : Mapping} (h : m.Disjoint n) : n.Disjoint m := Or.symm h

theorem Mapping.Disjoint.within {m n m' n' : Mapping} (h : m.Disjoint n) (hm : m'.Within m) (hn : n'.Within n) :
    m'.Disjoint n' := by
  unfold Disjoint Within at *
  omega

theorem Mapping.apart_coe {l : List Mapping} (h : l.Pairwise Disjoint) : Apart (l : Multiset Mapping) := by
  intro m n hmn
  obtain ⟨l', hperm, hsub⟩ := Multiset.coe_le.mp (show ((([m, n] : List Mapping) : Multiset Mapping)) ≤ l from hmn)
  have hpair := (hperm.pairwise_iff fun h => h.symm).mp (h.sublist hsub)
  simpa using hpair

namespace Os

/-- What is known about a mapping in place. -/
structure Fits (os : Os) (m : Mapping) : Prop where
  aligned : pageSize ∣ m.start
  len_pos : 0 < m.len
  stop_le : m.stop ≤ Size.limit
  stop_le_top : m.stop ≤ os.space.top

/-- What is mapped is aligned, not empty, inside the address range and disjoint, and the same goes for what will be. -/
structure Sound (os : Os) : Prop where
  place : os.place.Sound
  fits : ∀ m ∈ os.space.live, os.Fits m
  disjoint : os.space.live.Pairwise Mapping.Disjoint

/-- Nothing is mapped. -/
theorem Sound.of_empty {os : Os} (hplace : os.place.Sound) (hlive : os.space.live = []) : os.Sound := by
  refine ⟨hplace, fun m hm => ?_, by rw [hlive]; exact .nil⟩
  rw [hlive] at hm
  cases hm

theorem standard_sound : standard.Sound := .of_empty standardPlacement_sound rfl

theorem Sound.apart {os : Os} (h : os.Sound) : Mapping.Apart (os.space.live : Multiset Mapping) :=
  Mapping.apart_coe h.disjoint

/-- **Mapping** adds a mapping of the length asked for, in whole pages, or changes nothing that is mapped. -/
theorem Sound.map_spec {os : Os} (h : os.Sound) (size : Nat) (refuse : Bool) :
    (∃ m os', os.map size refuse = (.ok m, os') ∧ os'.Sound ∧ os'.space.live = m :: os.space.live ∧
      m.len = Size.roundUp size pageSize) ∨
    (∃ e os', os.map size refuse = (.error e, os') ∧ os'.Sound ∧ os'.space.live = os.space.live) := by
  by_cases hsize : size = 0
  · exact .inr ⟨.emptyMapping, os, by rw [Os.map, if_pos hsize], h, rfl⟩
  cases hplace : (if refuse then none else os.place os.space (Size.roundUp size pageSize)) with
  | none =>
    refine .inr ⟨.outOfMemory, { os with space := { os.space with requests := os.space.requests + 1 } }, ?_,
      ⟨h.place, fun m hm => ?_, h.disjoint⟩, rfl⟩
    · rw [Os.map, if_neg hsize]
      simp only [hplace]
    · obtain ⟨h1, h2, h3, h4⟩ := h.fits m hm
      exact ⟨h1, h2, h3, h4⟩
  | some start =>
    have hgrant : os.place os.space (Size.roundUp size pageSize) = some start := by
      split at hplace
      · cases hplace
      · exact hplace
    obtain ⟨haligned, -, hlimit, hdisjoint⟩ := h.place _ _ _ (fun m hm => (h.fits m hm).stop_le_top) hgrant
    have hle : size ≤ Size.roundUp size pageSize := Size.le_roundUp (by decide) size
    let m : Mapping := ⟨start, Size.roundUp size pageSize⟩
    refine .inl ⟨m, { os with space := { os.space with
      requests := os.space.requests + 1, live := m :: os.space.live, top := max os.space.top m.stop } }, ?_,
      ⟨h.place, fun n hn => ?_, ?_⟩, rfl, rfl⟩
    · rw [Os.map, if_neg hsize]
      simp only [hplace]
      rfl
    · rcases List.mem_cons.mp hn with rfl | hn
      · exact ⟨haligned, Nat.lt_of_lt_of_le (Nat.pos_of_ne_zero hsize) hle, hlimit, Nat.le_max_right _ _⟩
      · obtain ⟨h1, h2, h3, h4⟩ := h.fits n hn
        exact ⟨h1, h2, h3, Nat.le_trans h4 (Nat.le_max_left _ _)⟩
    · exact List.pairwise_cons.mpr ⟨fun n hn => (hdisjoint n hn).symm, h.disjoint⟩

/-- What is granted is away from address 0. -/
theorem Sound.start_pos {os os' : Os} (h : os.Sound) {size : Nat} {refuse : Bool} {m : Mapping}
    (hm : os.map size refuse = (.ok m, os')) : 0 < m.start := by
  unfold Os.map at hm
  split at hm
  · cases hm
  · dsimp only at hm
    split at hm
    · cases hm
    · rename_i start hplace
      cases hm
      split at hplace
      · cases hplace
      · exact (h.place _ _ _ (fun m hm => (h.fits m hm).stop_le_top) hplace).2.1

/-- **Unmapping** a mapping in place removes it. -/
theorem Sound.unmap_spec {os : Os} (h : os.Sound) {m : Mapping} (hm : m ∈ os.space.live) :
    (os.unmap m).Sound ∧ (os.unmap m).space.live = os.space.live.erase m := by
  have heq : os.unmap m = { os with space := { os.space with live := os.space.live.erase m } } := if_pos hm
  rw [heq]
  refine ⟨⟨h.place, fun n hn => ?_, h.disjoint.sublist List.erase_sublist⟩, rfl⟩
  obtain ⟨h1, h2, h3, h4⟩ := h.fits n (List.mem_of_mem_erase hn)
  exact ⟨h1, h2, h3, h4⟩

/-- Asking for a mapping releases nothing. -/
theorem map_stray (os : Os) (size : Nat) (refuse : Bool) : (os.map size refuse).2.space.stray = os.space.stray := by
  unfold Os.map
  split
  · rfl
  · dsimp only
    split <;> rfl

/-- Unmapping a mapping in place is no stray release. -/
theorem unmap_stray {os : Os} {m : Mapping} (hm : m ∈ os.space.live) : (os.unmap m).space.stray = os.space.stray := by
  rw [Os.unmap, if_pos hm]

end Os

end BlockHeap
