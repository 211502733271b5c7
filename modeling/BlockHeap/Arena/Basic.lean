import BlockHeap.Arena.Geometry
import BlockHeap.FreeMap.Basic
import BlockHeap.Os.Mapping
import BlockHeap.Policy

/-!
# Arenas

An arena serves blocks of one size out of one mapped region. `allocate` first hands out every block once, in order of
address; the cursor `bump` is the offset of the next one. After that it hands out the blocks that `deallocate` has
given back, which the free map finds again.
-/

namespace BlockHeap

/-- A mapped region that serves blocks of one size. -/
structure Arena where
  /-- Who may use the arena. -/
  policy : Policy
  blockSize : Nat
  /-- The number of bytes that the blocks take. -/
  usable : Nat
  /-- The offset of the next block that was never handed out. -/
  bump : Nat
  /-- The blocks that were given back. -/
  free : FreeMap
  /-- The region, with the first block at its start. -/
  region : Mapping

namespace Arena

/-- A fresh arena of a given geometry in a fresh region. -/
def create (policy : Policy) (g : Geometry) (region : Mapping) : Except Fault Arena := do
  let free ← FreeMap.create g.shape g.blockCount
  return { policy, blockSize := g.blockSize, usable := g.usable, bump := 0, free, region }

/-- The address of the first block. -/
def base (a : Arena) : Nat := a.region.start

/-- The number of blocks. -/
def blockCount (a : Arena) : Nat := a.free.blockCount

/-- The address at a given offset, which must lie in the blocks. -/
def blockAt (a : Arena) (offset : Nat) : Except Fault Nat :=
  if offset < a.usable then .ok (a.base + offset) else .error .offsetOutOfRange

/-- Whether an address lies in the blocks. One below the first block is very far behind it. -/
def owns (a : Arena) (address : Nat) : Bool := Size.gap address a.base < a.usable

/-- Whether there is no block to hand out. -/
def isFull (a : Arena) : Bool := a.usable ≤ a.bump && !a.free.hasFree

/-- Hands out a block, if there is one. -/
def allocate (a : Arena) : Except Fault (Option Nat) × Arena :=
  if a.bump < a.usable then
    ((a.blockAt a.bump).map some, { a with bump := a.bump + a.blockSize })
  else
    let r := a.free.claim
    let a := { a with free := r.2 }
    match r.1 with
    | .error f => (.error f, a)
    | .ok none => (.ok none, a)
    | .ok (some i) => ((a.blockAt (i * a.blockSize)).map some, a)

/-- Takes back the block that starts at an address. -/
def deallocate (a : Arena) (address : Nat) : Except Fault Unit × Arena :=
  if !a.owns address then (.error .foreignToArena, a)
  else
    let offset := address - a.base
    if offset % a.blockSize ≠ 0 then (.error .offBoundary, a)
    else
      let r := a.free.release (offset / a.blockSize)
      (r.1, { a with free := r.2 })

/-- The number of the block in which an address lies. -/
def blockIndex (a : Arena) (address : Nat) : Nat := Size.gap address a.base / a.blockSize

/-- The description of an arena. -/
def describe (a : Arena) : String :=
  Text.record "Arena" [("policy", Text.quoted a.policy.name), ("base", Text.address),
    ("block_size", toString a.blockSize), ("num_blocks", toString a.blockCount), ("bump_offset", toString a.bump)]

end Arena

end BlockHeap
