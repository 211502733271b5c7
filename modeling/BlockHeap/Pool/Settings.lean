import BlockHeap.SizeClass
import BlockHeap.Text

/-!
# Settings of a pool

The block size and the largest number of arenas of a pool, each set at most once. A setter refuses a value that no pool
can have and then changes nothing; a second value is a fault too, but it replaces the first one.
-/

namespace BlockHeap.Pool

/-- The largest number of arenas of any pool. -/
def capacity : Nat := 16

/-- What has been decided about a pool so far. -/
structure Settings where
  blockSize : Option Nat
  maxArenas : Option Nat
  deriving DecidableEq, Repr

namespace Settings

/-- Nothing is decided. -/
def empty : Settings := ⟨none, none⟩

/-- Sets the block size, which must be a pooled class. -/
def setBlockSize (s : Settings) (size : Nat) : Except Fault Unit × Settings :=
  if !Size.isPowerOfTwo size then (.error .blockSizeNotPowerOfTwo, s)
  else if size < SizeClass.least ∨ SizeClass.greatest < size then (.error .invalidBlockSize, s)
  else (if s.blockSize.isNone then .ok () else .error .blockSizeTwice, { s with blockSize := some size })

/-- Sets the block size to the class that serves requests of a given number of bytes. -/
def setBlockSizeFor (s : Settings) (bytes : Nat) : Except Fault Unit × Settings :=
  let size := SizeClass.fitting bytes
  if size = SizeClass.unclassed then (.error .requestTooLarge, s) else s.setBlockSize size

/-- Sets the largest number of arenas. -/
def setMaxArenas (s : Settings) (n : Nat) : Except Fault Unit × Settings :=
  if n < 1 then (.error .noArenas, s)
  else if capacity < n then (.error .tooManyArenas, s)
  else (if s.maxArenas.isNone then .ok () else .error .limitTwice, { s with maxArenas := some n })

/-- The description of settings. -/
def describe (s : Settings) : String :=
  Text.record "PoolBuilder"
    [("block_size", Text.optional (s.blockSize.map toString)), ("max_arenas", Text.optional (s.maxArenas.map toString))]

/-- One setting. -/
inductive Change where
  | blockSize (size : Nat)
  /-- Sets the block size to the class for requests of so many bytes. -/
  | blockSizeFor (bytes : Nat)
  | maxArenas (n : Nat)
  deriving DecidableEq, Repr

/-- Makes one change. -/
def change (s : Settings) : Change → Except Fault Unit × Settings
  | .blockSize size => s.setBlockSize size
  | .blockSizeFor bytes => s.setBlockSizeFor bytes
  | .maxArenas n => s.setMaxArenas n

/-- Makes changes in order, up to the first that is refused. -/
def changeAll (s : Settings) : List Change → Except Fault Settings
  | [] => .ok s
  | c :: cs =>
    match s.change c with
    | (.error f, _) => .error f
    | (.ok (), s) => changeAll s cs

end Settings

end BlockHeap.Pool
