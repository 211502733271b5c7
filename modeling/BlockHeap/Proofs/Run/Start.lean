import BlockHeap.Proofs.Pool.Settings
import BlockHeap.Proofs.Run.Sound

/-!
# Fresh heaps

A heap is *fresh* when its operating system is sound and its pools have just been built, with valid settings. A process
that starts on a fresh heap is sound (`Fresh.start_sound`), so all that a run reaches from there is
(`Fresh.run_sound`). The heap of a new registry is fresh (`Registry.create_fresh`), and the classes of its pools are
those of the requests that they serve (`Registry.blockSize_eq`).
-/

namespace BlockHeap

/-- The operating system is sound, and the pools have just been built. -/
structure Heap.Fresh (h : Heap) : Prop where
  os : h.os.Sound
  pools : ∀ p ∈ h.pools, ∃ (s : Pool.Settings) (policy : Policy), s.Valid ∧ s.build policy = .ok p

namespace Heap.Fresh

variable {h : Heap} {src : Source}

/-- A pool that has just been built is sound and has no arenas. -/
theorem build_sound {s : Pool.Settings} (hs : s.Valid) {policy : Policy} {p : Pool} (hp : s.build policy = .ok p) :
    p.Sound [] ∧ p.arenas = 0 := by
  obtain ⟨size, n, g, hp, hg⟩ := hs.build hp
  obtain ⟨-, hsize, -, hcount, hcurrent, -⟩ := Pool.create_eq hp
  refine Pool.Sound.of_empty hcount hcurrent (fun i => Pool.slot?_create hp) fun _ => ?_
  rw [hsize]
  exact ⟨g, hg⟩

theorem pool_built (h' : h.Fresh) {k : Nat} (hk : k < h.pools.size) :
    ∃ (s : Pool.Settings) (policy : Policy), s.Valid ∧ s.build policy = .ok (h.pool k) := by
  refine h'.pools _ ?_
  simp only [Heap.pool, Array.getD_eq_getD_getElem?, Array.getElem?_eq_getElem hk, Option.getD_some]
  exact Array.getElem_mem hk

theorem pool_sound (h' : h.Fresh) (k : Nat) : (h.pool k).Sound [] ∧ (h.pool k).arenas = 0 := by
  rcases Nat.lt_or_ge k h.pools.size with hk | hk
  · obtain ⟨s, policy, hs, hp⟩ := h'.pool_built hk
    exact build_sound hs hp
  · rw [Heap.pool_of_le hk]
    exact Heap.vacant_sound

/-- No slot of a pool that has just been built is counted, and its block size is allowed. -/
theorem pool_start (h' : h.Fresh) {k : Nat} (hk : k < h.pools.size) :
    (h.pool k).count = 0 ∧ ∃ g, Arena.Geometry.ofBlockSize (h.pool k).blockSize = .ok g := by
  obtain ⟨s, policy, hs, hbuild⟩ := h'.pool_built hk
  obtain ⟨size, n, g, hp, hg⟩ := hs.build hbuild
  obtain ⟨-, hsize, -, hcount, -⟩ := Pool.create_eq hp
  exact ⟨hcount, g, hsize ▸ hg⟩

/-- **A fresh heap is sound** with no blocks in use; the mappings in place belong to somebody else. -/
theorem sound (h' : h.Fresh) : h.Sound 0 (fun _ => []) h.os.space.live := by
  refine ⟨h'.os, fun k => (h'.pool_sound k).1, fun k => ?_, ?_, fun b hb => ?_⟩
  · rw [Pool.held, (h'.pool_sound k).2]
    rfl
  · have hnone : h.mappings = 0 := by
      refine Multiset.eq_zero_of_forall_notMem fun m hm => ?_
      obtain ⟨p, hp, hmp⟩ := Multiset.mem_bind.mp hm
      obtain ⟨s, policy, hs, hbuild⟩ := h'.pools p (by simpa [Heap.poolSet] using hp)
      rw [Pool.mappings, (build_sound hs hbuild).2] at hmp
      cases hmp
    rw [hnone, Multiset.zero_bind, zero_add, zero_add]
  · cases hb

/-- Adding pools that have just been built. -/
theorem addPools (h' : h.Fresh) {ps : List Pool}
    (hps : ∀ p ∈ ps, ∃ (s : Pool.Settings) (policy : Policy), s.Valid ∧ s.build policy = .ok p) :
    (h.addPools ps).Fresh := by
  refine ⟨h'.os, fun p hp => ?_⟩
  simp only [Heap.addPools, Array.mem_append, List.mem_toArray] at hp
  exact hp.elim (h'.pools p) (hps p)

theorem onOs {os : Os} (hos : os.Sound) : (Heap.onOs os).Fresh :=
  ⟨hos, fun p hp => by simp [Heap.onOs] at hp⟩

theorem start_sound (h' : h.Fresh) :
    (Process.start h).Sound src h (fun _ => []) h.os.space.live :=
  ⟨⟨h'.sound, .refl h, fun _ hb => (nomatch hb)⟩, fun _ hm => (nomatch hm)⟩

/-- **Runs from a fresh heap** reach sound processes. -/
theorem run_sound (h' : h.Fresh) (src : Source) (ops : List Op) :
    (runAll src ops (Process.start h)).Sound src h (fun _ => []) h.os.space.live :=
  runAll_sound ops h'.start_sound

end Heap.Fresh

/-! ## New registries -/

namespace Registry

/-- A list of successes succeeds. -/
theorem mapM_ok {α β : Type} {f : α → Except Fault β} {g : α → β} :
    ∀ {l : List α}, (∀ x ∈ l, f x = .ok (g x)) → l.mapM f = .ok (l.map g) := by
  intro l
  induction l with
  | nil =>
    intro _
    rfl
  | cons x l ih =>
    intro h
    rw [List.mapM_cons, h x List.mem_cons_self, ih fun y hy => h y (List.mem_cons_of_mem x hy)]
    rfl

/-- The new pool for a class. -/
def classPool (policy : Policy) (size : Nat) : Pool :=
  ⟨policy, size, Pool.capacity, Nat.le_refl _, Vector.replicate _ none, 0, 0⟩

theorem create_classPool (policy : Policy) (size : Nat) :
    Pool.create policy size Pool.capacity = .ok (classPool policy size) := dif_pos ⟨by decide, Nat.le_refl _⟩

/-- The class number `i`. -/
theorem class_eq_pow (i : Nat) : SizeClass.least * 2 ^ i = 2 ^ (i + 3) := by
  rw [Nat.add_comm, Nat.pow_add]
  rfl

theorem ofBlockSize_class (policy : Policy) {i : Nat} (hi : i < SizeClass.count) :
    Pool.ofBlockSize policy (SizeClass.least * 2 ^ i) = .ok (classPool policy (SizeClass.least * 2 ^ i)) := by
  have hcount : SizeClass.count = 20 := by decide
  have hlow : 2 ^ 3 ≤ 2 ^ (i + 3) := Nat.pow_le_pow_right (by decide) (by omega)
  have hhigh : 2 ^ (i + 3) ≤ 2 ^ 22 := Nat.pow_le_pow_right (by decide) (by omega)
  have hleast : SizeClass.least = 2 ^ 3 := rfl
  have hgreatest : SizeClass.greatest = 2 ^ 22 := rfl
  have hrange : ¬(2 ^ (i + 3) < SizeClass.least ∨ SizeClass.greatest < 2 ^ (i + 3)) := by omega
  rw [class_eq_pow, Pool.ofBlockSize, Pool.Settings.setBlockSize, Size.isPowerOfTwo_pow, if_neg hrange]
  exact create_classPool policy _

/-- The pools of a new registry. -/
theorem freshPools_eq (policy : Policy) :
    freshPools policy = .ok ((List.range SizeClass.count).map fun i => classPool policy (SizeClass.least * 2 ^ i)) := by
  refine mapM_ok fun i hi => ?_
  have hlt := List.mem_range.mp hi
  rw [SizeClass.ofIndex, if_pos hlt, Nat.shiftLeft_eq]
  exact ofBlockSize_class policy hlt

/-- The heap with a new registry. -/
def startHeap (os : Os) (policy : Policy) : Heap :=
  (Heap.onOs os).addPools ((List.range SizeClass.count).map fun i => classPool policy (SizeClass.least * 2 ^ i))

/-- **Making a registry** always succeeds. -/
theorem create_eq (os : Os) (policy : Policy) :
    create (Heap.onOs os) policy = (.ok ⟨policy, 0⟩, startHeap os policy) := by
  rw [create, freshPools_eq]
  rfl

/-- The pools of a new registry are built with valid settings. -/
theorem classPools_built (policy : Policy) : ∀ p ∈ (List.range SizeClass.count).map fun i =>
    classPool policy (SizeClass.least * 2 ^ i), ∃ (s : Pool.Settings) (policy : Policy), s.Valid ∧
      s.build policy = .ok p := by
  intro p hp
  obtain ⟨i, hi, rfl⟩ := List.mem_map.mp hp
  obtain ⟨s, hs, hbuild⟩ := Pool.ofBlockSize_valid (ofBlockSize_class policy (List.mem_range.mp hi))
  exact ⟨s, policy, hs, hbuild⟩

/-- The heap of a new registry is fresh. -/
theorem create_fresh {os : Os} (hos : os.Sound) (policy : Policy) : (startHeap os policy).Fresh :=
  (Heap.Fresh.onOs hos).addPools (classPools_built policy)

/-- **The pool for a request** has blocks of the request's class. -/
theorem blockSize_eq (os : Os) (policy : Policy) {bytes k : Nat}
    (hk : (Source.registry ⟨policy, 0⟩).poolOf bytes = some k) :
    ((startHeap os policy).pool k).blockSize = SizeClass.fitting bytes ∧ bytes ≤ SizeClass.fitting bytes := by
  by_cases hclass : SizeClass.fitting bytes = SizeClass.unclassed
  · have hroute := Source.route_of_unclassed ⟨policy, 0⟩ hclass
    rw [Source.route_eq, hk] at hroute
    cases hroute
  · obtain ⟨i, hi, hroute, heq, hle⟩ := Source.route_of_class ⟨policy, 0⟩ hclass
    rw [Source.route_eq, hk] at hroute
    obtain rfl : k = i := by simpa using hroute
    refine ⟨?_, hle⟩
    simp [startHeap, Heap.addPools, Heap.onOs, Heap.pool, hi, classPool, heq]

end Registry

end BlockHeap
