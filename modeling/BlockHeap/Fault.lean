/-!
# Faults

A fault is a broken promise: an argument that the called operation does not allow, or a state that should not exist.
It is never the answer to an honest request (those fail with an `AllocError`). `Fault.message` is the text under which
a fault is reported.
-/

namespace BlockHeap

/-- Why an operation gave up half way. -/
inductive Fault where
  | divisionByZero
  | classNotPowerOfTwo
  | classOutOfRange
  | classIndexOutOfRange
  | noBlocks
  | shapeTooSmall
  | blockOutOfRange
  | alreadyFree
  | freeBitPastEnd
  | blockSizeNotPowerOfTwo
  | blockSizeTooLarge
  | offsetOutOfRange
  | foreignToArena
  | offBoundary
  | foreignToPool
  | invalidBlockSize
  | blockSizeTwice
  | requestTooLarge
  | noArenas
  | tooManyArenas
  | limitTwice
  | noBlockSize
  | limitOutOfRange
  | noHandleOffset
  | mismatchedSize
  | listTooLong
  deriving DecidableEq, Repr

/-- The text that reports a fault. -/
def Fault.message : Fault → String
  | .divisionByZero => "Attempted to divide by zero"
  | .classNotPowerOfTwo => "Size class must be a power of 2"
  | .classOutOfRange => "Size class is out of the pooled range"
  | .classIndexOutOfRange => "Size class index is out of range"
  | .noBlocks => "A bitmap must track at least one block"
  | .shapeTooSmall => "Bitmap layout is too small for the requested block count"
  | .blockOutOfRange => "Block index is out of range"
  | .alreadyFree => "Tried to release a block which was already free"
  | .freeBitPastEnd => "Free bit set for a block beyond the arena's end"
  | .blockSizeNotPowerOfTwo => "Block size must be a power of 2"
  | .blockSizeTooLarge => "Block size is too large for an arena"
  | .offsetOutOfRange => "Block offset is out of range"
  | .foreignToArena => "Deallocated block does not belong to this arena"
  | .offBoundary => "Deallocated pointer is not on a block boundary"
  | .foreignToPool => "Deallocated block does not belong to this pool"
  | .invalidBlockSize => "Block size must be a valid size class"
  | .blockSizeTwice => "Block size must only be set once"
  | .requestTooLarge => "Request is too large to be served by an arena pool"
  | .noArenas => "Pool must be allowed at least one arena"
  | .tooManyArenas => "Pool cannot have more than MAX_ARENAS arenas"
  | .limitTwice => "Arena limit must only be set once"
  | .noBlockSize => "You must specify a block size"
  | .limitOutOfRange => "assertion failed: max_arenas >= 1 && max_arenas <= MAX_ARENAS"
  | .noHandleOffset => "Large blocks are mapped with a valid handle offset"
  | .mismatchedSize => "Large block was released with a mismatched size"
  | .listTooLong => "capacity overflow"

end BlockHeap
