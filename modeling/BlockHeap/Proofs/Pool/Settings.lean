import BlockHeap.Pool.Basic
import BlockHeap.Proofs.Arena.Geometry

/-!
# Settings that pools can have

Settings are *valid* when the block size is a pooled class and the limit is one that a pool can have. No change makes
valid settings invalid, not even one that is refused (`Valid.change`). So each pool that can be built has a block size
for which there is a geometry (`Valid.build`).
-/

namespace BlockHeap.Pool

namespace Settings

/-- What has been decided is what a pool can have. -/
structure Valid (s : Settings) : Prop where
  blockSize : ∀ size, s.blockSize = some size →
    Size.isPowerOfTwo size = true ∧ SizeClass.least ≤ size ∧ size ≤ SizeClass.greatest
  maxArenas : ∀ n, s.maxArenas = some n → 1 ≤ n ∧ n ≤ capacity

variable {s t : Settings}

theorem valid_empty : empty.Valid := ⟨fun _ h => (nomatch h), fun _ h => (nomatch h)⟩

theorem Valid.setBlockSize (h : s.Valid) (size : Nat) : (s.setBlockSize size).2.Valid := by
  unfold Settings.setBlockSize
  split
  · exact h
  · rename_i hpow
    split
    · exact h
    · rename_i hrange
      rw [not_or, Nat.not_lt, Nat.not_lt] at hrange
      refine ⟨fun size' hsize => ?_, h.maxArenas⟩
      obtain rfl := Option.some.inj hsize
      exact ⟨by simpa using hpow, hrange⟩

theorem Valid.setMaxArenas (h : s.Valid) (n : Nat) : (s.setMaxArenas n).2.Valid := by
  unfold Settings.setMaxArenas
  split
  · exact h
  · split
    · exact h
    · refine ⟨h.blockSize, fun n' hn => ?_⟩
      obtain rfl := Option.some.inj hn
      omega

/-- **A change keeps settings valid**, whether it is refused or not. -/
theorem Valid.change (h : s.Valid) (c : Change) : (s.change c).2.Valid := by
  cases c with
  | blockSize size => exact h.setBlockSize size
  | blockSizeFor bytes =>
    rw [Settings.change, setBlockSizeFor]
    split
    · exact h
    · exact h.setBlockSize _
  | maxArenas n => exact h.setMaxArenas n

theorem Valid.changeAll {cs : List Change} : ∀ {s : Settings}, s.Valid → s.changeAll cs = .ok t → t.Valid := by
  induction cs with
  | nil =>
    intro s h hall
    obtain rfl := Except.ok.inj hall
    exact h
  | cons c cs ih =>
    intro s h hall
    have hnext := h.change c
    rw [Settings.changeAll] at hall
    split at hall
    · cases hall
    · rename_i s' hc
      rw [hc] at hnext
      exact ih hnext hall

/-- **A pool that is built** with valid settings is new, and its arenas have a geometry. -/
theorem Valid.build (h : s.Valid) {policy : Policy} {p : Pool} (hp : s.build policy = .ok p) :
    ∃ size n g, Pool.create policy size n = .ok p ∧ Arena.Geometry.ofBlockSize size = .ok g := by
  rw [Settings.build] at hp
  split at hp
  · cases hp
  · rename_i size hsize
    obtain ⟨hpow, -, hle⟩ := h.blockSize size hsize
    obtain ⟨g, hg⟩ := Arena.Geometry.exists_ofBlockSize hpow (Nat.le_trans hle (by decide))
    exact ⟨size, _, g, hp, hg⟩

end Settings

/-- The pools for given block sizes are built with valid settings. -/
theorem ofBlockSize_valid {policy : Policy} {size : Nat} {p : Pool} (hp : ofBlockSize policy size = .ok p) :
    ∃ s : Settings, s.Valid ∧ s.build policy = .ok p := by
  have hvalid := Settings.valid_empty.setBlockSize size
  rw [ofBlockSize] at hp
  split at hp
  · cases hp
  · rename_i s hs
    rw [hs] at hvalid
    exact ⟨s, hvalid, hp⟩

end BlockHeap.Pool
