import BlockHeap.Heap.Call

/-!
# Oversized blocks

A request that is too large for the pools gets a mapping of its own. The handle of the mapping is put behind the block,
at the next multiple of its alignment, so that the block's address and size are enough to give the mapping back.
-/

namespace BlockHeap.Oversized

/-- The number of bytes of a handle. -/
def handleBytes : Nat := 16

/-- The alignment of a handle. -/
def handleAlign : Nat := 8

/-- Where the handle of a block of `size` bytes lies, behind the block's start. -/
def handleOffset? (size : Nat) : Option Nat :=
  (Size.add? size (handleAlign - 1)).map fun padded => padded / handleAlign * handleAlign

/-- The size of the mapping for a block of `size` bytes. -/
def mappingSize? (size : Nat) : Option Nat :=
  (handleOffset? size).bind fun offset => Size.add? offset handleBytes

end BlockHeap.Oversized

namespace BlockHeap.Call

variable {ε : Type}

/-- Maps a block of `size` bytes. -/
def mapOversized (c : Call ε) (size : Nat) : Except Failure Nat × Call ε :=
  match Oversized.handleOffset? size, Oversized.mappingSize? size with
  | some offset, some total =>
    match c.map total with
    | (.error e, c) => (.error (.error e), c)
    | (.ok m, c) =>
      let memory := c.heap.memory.write (m.start + offset) Oversized.handleBytes (.handle m)
      (.ok m.start, ({ c with heap := { c.heap with memory } }).log (.oversizedMapped size))
  | _, _ => (.error (.error (.capacityOverflow size 1)), c)

/-- Gives back the mapping of a block of `size` bytes, found through its handle. -/
def unmapOversized (c : Call ε) (block size : Nat) : Except Fault Unit × Call ε :=
  match Oversized.handleOffset? size with
  | none => (.error .noHandleOffset, c)
  | some offset =>
    match c.heap.memory.read? (block + offset) with
    | some (.handle m) =>
      if m.start = block then (.ok (), (c.log (.oversizedUnmapped size)).unmap m)
      else (.error .mismatchedSize, c)
    | _ => (.error .mismatchedSize, c)

end BlockHeap.Call
