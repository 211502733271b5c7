import BlockHeap.AllocError
import BlockHeap.Size
import BlockHeap.Text

/-!
# Mappings

A mapping is a run of addresses that the operating system has lent out, in whole pages and filled with zeros. `Os` is
the operating system as the allocator sees it: the mappings in place, and a rule `place` for where the next mapping
goes or whether it is refused. A rule is `Sound` when what it grants is aligned to pages and meets no mapping in place;
`Os.standard` follows one such rule (`standardPlacement_sound`) and refuses mappings of more than `largest` bytes.
-/

namespace BlockHeap

/-- The unit in which the operating system lends memory. -/
def pageSize : Nat := 4096

/-- A run of addresses lent by the operating system. -/
structure Mapping where
  start : Nat
  len : Nat
  deriving DecidableEq, Repr, Inhabited

namespace Mapping

/-- One behind the last address. -/
def stop (m : Mapping) : Nat := m.start + m.len

/-- The two mappings share no address. -/
def Disjoint (m n : Mapping) : Prop := m.stop ≤ n.start ∨ n.stop ≤ m.start

instance (m n : Mapping) : Decidable (Disjoint m n) := inferInstanceAs (Decidable (_ ∨ _))

/-- The description of a mapping. -/
def describe (m : Mapping) : String :=
  Text.record "Mapping" [("start", Text.address), ("len", toString m.len)]

end Mapping

/-- The addresses of a process and what is mapped there. -/
structure AddressSpace where
  /-- The mappings in place, the newest first. -/
  live : List Mapping
  /-- No mapping, past or present, goes beyond this address. -/
  top : Nat
  /-- The number of mappings asked for so far. -/
  requests : Nat
  /-- The number of releases of mappings that were not in place. -/
  stray : Nat

/-- Where a mapping of a given length goes, or that it is refused. -/
abbrev Placement := AddressSpace → Nat → Option Nat

/-- What a placement grants is in whole pages, away from address 0, inside the address range, and disjoint from all
mappings in place. -/
def Placement.Sound (place : Placement) : Prop :=
  ∀ (s : AddressSpace) (len start : Nat), (∀ m ∈ s.live, m.stop ≤ s.top) → place s len = some start →
    pageSize ∣ start ∧ 0 < start ∧ start + len ≤ Size.limit ∧ ∀ m ∈ s.live, m.Disjoint ⟨start, len⟩

/-- The operating system. -/
structure Os where
  space : AddressSpace
  place : Placement

namespace Os

/-- The largest mapping that the standard operating system grants. -/
def largest : Nat := 1024 * 1024 * 1024

/-- The distance that the standard operating system keeps between mappings. -/
def spacing : Nat := 4 * 1024 * 1024 * 1024

/-- Every mapping goes behind all earlier ones, at a distance. -/
def standardPlacement : Placement := fun s len =>
  let start := Size.roundUp s.top pageSize + spacing
  if len ≤ largest ∧ start + len ≤ Size.limit then some start else none

/-- What goes behind all earlier mappings meets none of them. -/
theorem standardPlacement_sound : standardPlacement.Sound := by
  intro s len start hs h
  have hpage := Size.dvd_roundUp s.top pageSize
  have htop : s.top ≤ Size.roundUp s.top pageSize := Size.le_roundUp (by decide) s.top
  unfold standardPlacement at h
  dsimp only at h
  split at h
  · rename_i hfit
    cases h
    refine ⟨Nat.dvd_add hpage (by decide), Nat.add_pos_right _ (by decide), hfit.2, fun m hm => .inl ?_⟩
    have := hs m hm
    dsimp only
    omega
  · cases h

/-- The standard operating system with nothing mapped. -/
def standard : Os := ⟨⟨[], 0, 0, 0⟩, standardPlacement⟩

/-- Asks for a mapping of `size` bytes, rounded up to whole pages. With `refuse` the request is turned down. -/
def map (os : Os) (size : Nat) (refuse : Bool) : Except OsError Mapping × Os :=
  if size = 0 then (.error .emptyMapping, os)
  else
    let s := os.space
    let len := Size.roundUp size pageSize
    let asked := { s with requests := s.requests + 1 }
    match if refuse then none else os.place s len with
    | none => (.error .outOfMemory, { os with space := asked })
    | some start =>
      let m : Mapping := ⟨start, len⟩
      (.ok m, { os with space := { asked with live := m :: s.live, top := max s.top m.stop } })

/-- Gives a mapping back. -/
def unmap (os : Os) (m : Mapping) : Os :=
  let s := os.space
  if m ∈ s.live then { os with space := { s with live := s.live.erase m } }
  else { os with space := { s with stray := s.stray + 1 } }

/-- The number of mappings in place that have a given length. -/
def countOfLen (os : Os) (len : Nat) : Nat := os.space.live.countP (·.len == len)

/-- The number of mappings in place. -/
def liveCount (os : Os) : Nat := os.space.live.length

end Os

end BlockHeap
