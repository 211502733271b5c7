import BlockHeap.Pool.Growth
import BlockHeap.Proofs.Arena.Blocks
import BlockHeap.Proofs.Pool.Settings
import BlockHeap.Proofs.Pool.Slots
import BlockHeap.Proofs.SizeClass
import Mathlib.Data.List.Induction

/-!
# Settings after any sequence of uses

Settings are used by changing them and by building pools, and a use that is refused does not end the sequence. A change
replaces what it is about by its own value when pools can have that value (`change_settings`), whether or not it is
refused for coming second (`change_ok_iff`). So what is set is the last such value (`after_eq`). Pools can be built as
soon as there is a block size, and making their arenas never fails other than for want of memory
(`Arena.Geometry.exists_sound`, `Call.fillSlot_error`).
-/

namespace BlockHeap

/-! ## Arenas for a pooled block size -/

namespace Arena.Geometry

/-- **Block sizes of pools have a geometry**, with the words of the free map aligned, for which every region makes an
arena. -/
theorem exists_sound {size : Nat} (h : SizeClass.Pooled size) :
    ∃ g, ofBlockSize size = .ok g ∧ 8 ∣ g.mapOffset ∧
      ∀ (policy : Policy) (region : Mapping), ∃ a, Arena.create policy g region = .ok a := by
  obtain ⟨g, hg⟩ := exists_ofBlockSize h.1 (Nat.le_trans h.2.2 (by decide))
  have hfits := (ofBlockSize_fits hg).2
  refine ⟨g, hg, ?_, fun policy region => ?_⟩
  · have hbytes : 8 ∣ g.shape.bytes := Nat.dvd_mul_left 8 _
    have hregion : 8 ∣ g.mapOffset + g.shape.bytes := by
      rw [hfits.mapOffset_add]
      decide
    exact (Nat.dvd_add_left hbytes).mp hregion
  · obtain ⟨m, hm, -⟩ := Arena.create_eq policy region hfits
    exact ⟨_, hm⟩

end Arena.Geometry

/-- A mapping has room for what was asked for. -/
theorem Os.le_len_of_map {os os' : Os} {size : Nat} {refuse : Bool} {m : Mapping}
    (h : os.map size refuse = (.ok m, os')) : size ≤ m.len := by
  unfold Os.map at h
  split at h
  · cases h
  · dsimp only at h
    split at h
    · cases h
    · cases h
      exact Size.le_roundUp (by decide) size

namespace Call

variable {ε : Type} {size : Nat}

theorem houseArena_error (h : SizeClass.Pooled size) (c : Call ε) (policy : Policy) {f : Failure}
    (hf : (c.houseArena policy size).1 = .error f) : ∃ e, f = .error e := by
  obtain ⟨g, hg, -, hcreate⟩ := Arena.Geometry.exists_sound h
  rw [houseArena, mapArena, hg] at hf
  dsimp only at hf
  cases hmap : c.map Arena.regionBytes with
  | mk x c' =>
    rw [hmap] at hf
    cases x with
    | error e =>
      cases hf
      exact ⟨e, rfl⟩
    | ok region =>
      obtain ⟨a, ha⟩ := hcreate policy region
      dsimp only at hf
      rw [ha] at hf
      dsimp only at hf
      split at hf
      · cases hf
        exact ⟨_, rfl⟩
      · cases hf

/-- **Filling a slot** of a pool with a pooled block size fails only when a mapping is refused. -/
theorem fillSlot_error (c : Call ε) {k : Nat} (h : SizeClass.Pooled (c.heap.pool k).blockSize) (slot : Nat)
    {f : Failure} (hf : (c.fillSlot k slot).1 = .error f) : ∃ e, f = .error e := by
  have hhouse : ∀ f, (c.houseArena (c.heap.pool k).policy (c.heap.pool k).blockSize).1 = .error f → ∃ e, f = .error e :=
    fun _ => houseArena_error h c _
  unfold fillSlot at hf
  dsimp only at hf
  split at hf
  · cases hf
  · cases hf
    exact ⟨_, rfl⟩
  · rename_i heq
    cases hf
    exact hhouse f (by rw [heq])

end Call

namespace Pool.Settings

/-! ## Uses -/

/-- A use of settings that are being decided. -/
inductive Use where
  | change (c : Change)
  | build (policy : Policy)

/-- The answer to a use, and the settings afterwards. Only building gives a pool. -/
def use (s : Settings) : Use → Except Fault (Option Pool) × Settings
  | .change c => ((s.change c).1.map fun _ => none, (s.change c).2)
  | .build policy => ((s.build policy).map some, s)

/-- The settings after uses in order. One that is refused is followed by the next. -/
def after (s : Settings) (us : List Use) : Settings := us.foldl (fun s u => (s.use u).2) s

namespace Change

/-- The block size that a change sets, if it is one that pools have. -/
def blockSize? : Change → Option Nat
  | .blockSize size => if SizeClass.Pooled size then some size else none
  | .blockSizeFor bytes => if bytes ≤ SizeClass.greatest then some (SizeClass.fitting bytes) else none
  | .maxArenas _ => none

/-- The number of arenas that a change sets, if it is one that pools can have. -/
def limit? : Change → Option Nat
  | .maxArenas n => if 1 ≤ n ∧ n ≤ capacity then some n else none
  | _ => none

/-- The value of the change is one that pools can have. -/
def Acceptable (c : Change) : Prop := c.blockSize?.isSome ∨ c.limit?.isSome

/-- What the change is about has been set already. -/
def Repeats (c : Change) (s : Settings) : Prop :=
  match c with
  | .maxArenas _ => s.maxArenas.isSome
  | _ => s.blockSize.isSome

end Change

/-- The block size that a use sets. -/
def Use.blockSize? : Use → Option Nat
  | .change c => c.blockSize?
  | .build _ => none

/-- The number of arenas that a use sets. -/
def Use.limit? : Use → Option Nat
  | .change c => c.limit?
  | .build _ => none

variable (s : Settings)

theorem setBlockSize_pooled {size : Nat} (h : SizeClass.Pooled size) : s.setBlockSize size =
    (if s.blockSize.isNone then .ok () else .error .blockSizeTwice, { s with blockSize := some size }) := by
  have hrange : ¬(size < SizeClass.least ∨ SizeClass.greatest < size) := by
    obtain ⟨-, hlow, hhigh⟩ := h
    omega
  rw [setBlockSize, h.1, if_neg hrange]
  rfl

theorem setBlockSize_refused {size : Nat} (h : ¬SizeClass.Pooled size) : ∃ f, s.setBlockSize size = (.error f, s) := by
  unfold setBlockSize
  split
  · exact ⟨_, rfl⟩
  · rename_i hpow
    split
    · exact ⟨_, rfl⟩
    · rename_i hrange
      exact absurd ⟨by simpa using hpow, by omega, by omega⟩ h

/-- A change of the block size to the class for a request is refused, or is the change to this class. -/
theorem setBlockSizeFor_cases (bytes : Nat) :
    (SizeClass.greatest < bytes ∧ s.setBlockSizeFor bytes = (.error .requestTooLarge, s)) ∨
      (bytes ≤ SizeClass.greatest ∧ s.setBlockSizeFor bytes = s.setBlockSize (SizeClass.fitting bytes)) := by
  by_cases h : bytes ≤ SizeClass.greatest
  · exact .inr ⟨h, if_neg (SizeClass.fitting_ne_unclassed h)⟩
  · have hlarge := Nat.lt_of_not_le h
    exact .inl ⟨hlarge, if_pos (SizeClass.fitting_of_greatest_lt hlarge)⟩

theorem setMaxArenas_eq (n : Nat) : (1 ≤ n ∧ n ≤ capacity ∧ s.setMaxArenas n =
      (if s.maxArenas.isNone then .ok () else .error .limitTwice, { s with maxArenas := some n })) ∨
    (¬(1 ≤ n ∧ n ≤ capacity) ∧ ∃ f, s.setMaxArenas n = (.error f, s)) := by
  unfold setMaxArenas
  split
  · exact .inr ⟨by omega, _, rfl⟩
  · split
    · exact .inr ⟨by omega, _, rfl⟩
    · exact .inl ⟨by omega, by omega, rfl⟩

/-- **What a change does**: an acceptable value replaces the one that was set, and nothing else changes. -/
theorem change_settings (c : Change) :
    (s.change c).2 = ⟨c.blockSize?.or s.blockSize, c.limit?.or s.maxArenas⟩ := by
  cases c with
  | blockSize size =>
    simp only [change, Change.blockSize?, Change.limit?, Option.none_or]
    split
    · rename_i h
      rw [setBlockSize_pooled s h]
      rfl
    · rename_i h
      obtain ⟨f, hf⟩ := setBlockSize_refused s h
      rw [hf]
      rfl
  | blockSizeFor bytes =>
    simp only [change, Change.blockSize?, Change.limit?, Option.none_or]
    obtain ⟨hlarge, heq⟩ | ⟨hle, heq⟩ := setBlockSizeFor_cases s bytes
    · rw [heq, if_neg (Nat.not_le.mpr hlarge)]
      rfl
    · rw [heq, if_pos hle, setBlockSize_pooled s (SizeClass.pooled_fitting hle)]
      rfl
  | maxArenas n =>
    simp only [change, Change.blockSize?, Change.limit?, Option.none_or]
    obtain ⟨h1, h2, heq⟩ | ⟨hnot, f, heq⟩ := setMaxArenas_eq s n
    · rw [if_pos (And.intro h1 h2), heq]
      rfl
    · rw [if_neg hnot, heq]
      rfl

/-- **When a change goes through**: its value is acceptable, and nothing was set before. -/
theorem change_ok_iff (c : Change) : (s.change c).1 = .ok () ↔ c.Acceptable ∧ ¬c.Repeats s := by
  cases c with
  | blockSize size =>
    by_cases h : SizeClass.Pooled size
    · simp [change, Change.Acceptable, Change.Repeats, Change.blockSize?, h, setBlockSize_pooled s h]
    · obtain ⟨f, hf⟩ := setBlockSize_refused s h
      simp [change, Change.Acceptable, Change.blockSize?, Change.limit?, h, hf]
  | blockSizeFor bytes =>
    obtain ⟨hlarge, heq⟩ | ⟨hle, heq⟩ := setBlockSizeFor_cases s bytes
    · simp [change, Change.Acceptable, Change.blockSize?, Change.limit?, hlarge, heq]
    · simp [change, Change.Acceptable, Change.Repeats, Change.blockSize?, hle, heq,
        setBlockSize_pooled s (SizeClass.pooled_fitting hle)]
  | maxArenas n =>
    obtain ⟨h1, h2, heq⟩ | ⟨hnot, f, heq⟩ := setMaxArenas_eq s n
    · simp [change, Change.Acceptable, Change.Repeats, Change.limit?, h1, h2, heq]
    · simp [change, Change.Acceptable, Change.blockSize?, Change.limit?, hnot, heq]

theorem Change.eq_none_of_not_acceptable {c : Change} (h : ¬c.Acceptable) : c.blockSize? = none ∧ c.limit? = none := by
  simpa [Change.Acceptable] using h

theorem use_settings (u : Use) : (s.use u).2 = ⟨u.blockSize?.or s.blockSize, u.limit?.or s.maxArenas⟩ := by
  cases u with
  | change c => exact s.change_settings c
  | build policy => rfl

/-! ## Sequences of uses -/

/-- The last value of a list with one more element. -/
theorem getLast?_filterMap_concat {α β : Type} (f : α → Option β) (l : List α) (x : α) :
    ((l ++ [x]).filterMap f).getLast? = (f x).or (l.filterMap f).getLast? := by
  cases h : f x <;> simp [List.filterMap_append, h]

/-- **What is set is what was last set acceptably.** -/
theorem after_eq (us : List Use) :
    empty.after us = ⟨(us.filterMap Use.blockSize?).getLast?, (us.filterMap Use.limit?).getLast?⟩ := by
  induction us using List.reverseRecOn with
  | nil => rfl
  | append_singleton us u ih =>
    have hlast : empty.after (us ++ [u]) = ((empty.after us).use u).2 := by
      rw [after, List.foldl_append]
      rfl
    rw [hlast, use_settings, ih, getLast?_filterMap_concat, getLast?_filterMap_concat]

theorem valid_after (us : List Use) : (empty.after us).Valid := by
  induction us using List.reverseRecOn with
  | nil => exact valid_empty
  | append_singleton us u ih =>
    rw [after, List.foldl_append]
    cases u with
    | change c => exact ih.change c
    | build policy => exact ih

/-- Building with valid settings. -/
theorem Valid.build_eq {s : Settings} (h : s.Valid) {size : Nat} (hsize : s.blockSize = some size) (policy : Policy) :
    ∃ p, s.build policy = .ok p ∧ Pool.create policy size (s.maxArenas.getD capacity) = .ok p := by
  have hlimit : 1 ≤ s.maxArenas.getD capacity ∧ s.maxArenas.getD capacity ≤ capacity := by
    cases hn : s.maxArenas with
    | none => decide
    | some n => exact h.maxArenas n hn
  rw [Settings.build, hsize]
  dsimp only
  rw [Pool.create, dif_pos hlimit]
  exact ⟨_, rfl, rfl⟩

/-- **Settings are always such that pools can be built with them.** After every sequence of uses each parameter has the
value of the last change that was acceptable by itself. A further change is refused when its value is not acceptable,
which changes nothing, and when the parameter was set before, which replaces the value. A build is refused as long as
there is no block size. From then on it gives an empty pool with these settings, and no growth of a pool with this block
size ever comes to an assertion. -/
theorem uses_settings (us : List Use) : ∃ s, empty.after us = s ∧
    s.blockSize = (us.filterMap Use.blockSize?).getLast? ∧ s.maxArenas = (us.filterMap Use.limit?).getLast? ∧
    (∀ size, s.blockSize = some size → SizeClass.Pooled size) ∧ (∀ n, s.maxArenas = some n → 1 ≤ n ∧ n ≤ capacity) ∧
    (∀ c, ((s.change c).1 ≠ .ok () ↔ ¬c.Acceptable ∨ c.Repeats s) ∧ (¬c.Acceptable → (s.change c).2 = s) ∧
      (s.change c).2 = ⟨c.blockSize?.or s.blockSize, c.limit?.or s.maxArenas⟩) ∧
    ∀ policy, (s.blockSize = none → s.build policy = .error .noBlockSize) ∧
      ∀ size, s.blockSize = some size → ∃ p, s.build policy = .ok p ∧ p.policy = policy ∧ p.blockSize = size ∧
        p.maxArenas = s.maxArenas.getD 16 ∧ p.count = 0 ∧ p.current = 0 ∧ (∀ i, p.slot? i = none) ∧
        Pool.create policy size p.maxArenas = .ok p ∧
        (∃ g, Arena.Geometry.ofBlockSize size = .ok g ∧ 8 ∣ g.mapOffset ∧
          ∀ region, ∃ a, Arena.create policy g region = .ok a) ∧
        (∀ (os os' : Os) refuse region, os.map Arena.regionBytes refuse = (.ok region, os') →
          Arena.regionBytes ≤ region.len) ∧
        ∀ {ε : Type} (c : Call ε) k slot, (c.heap.pool k).blockSize = p.blockSize →
          ∀ f, (c.fillSlot k slot).1 = .error f → ∃ e, f = .error e := by
  have hvalid := valid_after us
  refine ⟨_, rfl, by rw [after_eq], by rw [after_eq], hvalid.blockSize, hvalid.maxArenas, fun c => ?_, fun policy => ?_⟩
  · refine ⟨?_, fun hc => ?_, change_settings _ c⟩
    · rw [Ne, change_ok_iff, not_and_or, not_not]
    · obtain ⟨hsize, hlimit⟩ := Change.eq_none_of_not_acceptable hc
      rw [change_settings, hsize, hlimit]
      rfl
  · refine ⟨fun hnone => by rw [Settings.build, hnone], fun size hsize => ?_⟩
    have hpooled : SizeClass.Pooled size := hvalid.blockSize size hsize
    obtain ⟨p, hbuild, hcreate⟩ := hvalid.build_eq hsize policy
    obtain ⟨hpolicy, hblock, hmax, hcount, hcurrent, -⟩ := Pool.create_eq hcreate
    obtain ⟨g, hg, hwords, hregion⟩ := Arena.Geometry.exists_sound hpooled
    refine ⟨p, hbuild, hpolicy, hblock, hmax, hcount, hcurrent, fun i => Pool.slot?_create hcreate, by rwa [hmax],
      ⟨g, hg, hwords, hregion policy⟩, fun _ _ _ _ => Os.le_len_of_map, fun c k slot hk f hf => ?_⟩
    refine c.fillSlot_error ?_ slot hf
    rw [hk, hblock]
    exact hpooled

/-- A refused value is passed over, and a second acceptable one replaces the first. -/
example : empty.after [.build .shared, .change (.blockSize 16), .change (.blockSize 24), .change (.maxArenas 3),
    .change (.blockSizeFor 100), .build .threadLocal, .change (.maxArenas 17), .change (.blockSizeFor 4194305)] =
    ⟨some 128, some 3⟩ := by decide

end Pool.Settings

end BlockHeap
