import BlockHeap.FreeMap.Shape
import BlockHeap.Size

/-!
# How an arena is divided

The region of an arena has blocks of one size from its start on, and the words of the arena's free map at its end. The
free map is made for as many blocks as would fill the whole region; the blocks that would overlap it are given up.
-/

namespace BlockHeap.Arena

/-- The number of bytes of an arena's region. -/
def regionBytes : Nat := 64 * 1024 * 1024

/-- How the region of an arena is divided. -/
structure Geometry where
  blockSize : Nat
  blockCount : Nat
  /-- The number of bytes that the blocks take. -/
  usable : Nat
  mapOffset : Nat
  shape : FreeMap.Shape

/-- The geometry for blocks of a given size, a power of two of at most half a region. -/
def Geometry.ofBlockSize (blockSize : Nat) : Except Fault Geometry :=
  if !Size.isPowerOfTwo blockSize then .error .blockSizeNotPowerOfTwo
  else if regionBytes / 2 < blockSize then .error .blockSizeTooLarge
  else do
    let shape ← FreeMap.Shape.ofBlocks (regionBytes / blockSize)
    let mapOffset := regionBytes - shape.bytes
    let blockCount := mapOffset / blockSize
    return { blockSize, blockCount, usable := blockCount * blockSize, mapOffset, shape }

end BlockHeap.Arena
