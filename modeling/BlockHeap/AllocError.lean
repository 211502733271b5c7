/-!
# Allocation errors

What an honest request may be answered with instead of memory. `OsError` is the operating system's reason for not
mapping memory, `AllocError` the allocator's reason for not handing any out; `message` gives the text of each.
-/

namespace BlockHeap

/-- Why the operating system did not map memory. -/
inductive OsError where
  /-- A mapping of no bytes was asked for. -/
  | emptyMapping
  /-- There is no memory, or the request was refused. -/
  | outOfMemory
  deriving DecidableEq, Repr

/-- The text of an operating system error. -/
def OsError.message : OsError → String
  | .emptyMapping => "Invalid parameter value: size"
  | .outOfMemory => "System call failed: Cannot allocate memory (os error 12)"

/-- Why a request for memory was not served. -/
inductive AllocError where
  /-- The operating system did not map `size` bytes. -/
  | map (size : Nat) (source : OsError)
  /-- A pool has as many arenas as it may have, and all are full. -/
  | poolExhausted (blockSize arenas : Nat)
  /-- `count` elements of `elemSize` bytes are more bytes than there are addresses. -/
  | capacityOverflow (count elemSize : Nat)
  /-- The elements need more alignment than mappings have. -/
  | unsupportedAlignment (align pageSize : Nat)
  deriving DecidableEq, Repr

/-- The text of an allocation error. -/
def AllocError.message : AllocError → String
  | .map size _ => s!"failed to map {size} bytes of memory from the operating system"
  | .poolExhausted blockSize arenas => s!"all {arenas} arenas of the {blockSize}-byte size class are full"
  | .capacityOverflow count elemSize => s!"allocating {count} elements of {elemSize} bytes overflows usize"
  | .unsupportedAlignment align pageSize =>
    s!"alignment of {align} bytes exceeds the {pageSize}-byte page alignment"

end BlockHeap
