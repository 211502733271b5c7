import BlockHeap.AllocError
import BlockHeap.Policy

/-!
# Log events

What the allocator reports while it works, in the order in which it happens. An event has a level, a message and named
fields.
-/

namespace BlockHeap

/-- A logged event. -/
inductive Event where
  /-- The region of a new arena was mapped. -/
  | arenaMapped (policy : Policy) (blockSize blockCount usable : Nat)
  /-- A new arena is in its slot and has become the pool's current one. -/
  | poolGrew (policy : Policy) (blockSize slot : Nat)
  /-- A new arena could not be had; `givenBack` tells whether its slot could be given back. -/
  | growthFailed (policy : Policy) (blockSize slot : Nat) (givenBack : Bool)
  /-- The pool may have no more arenas, and all are full. -/
  | poolExhausted (policy : Policy) (blockSize arenas : Nat)
  /-- The operating system did not map `size` bytes. -/
  | mappingRefused (size : Nat) (error : OsError)
  | oversizedMapped (size : Nat)
  /-- An oversized block is about to be unmapped. -/
  | oversizedUnmapped (size : Nat)
  deriving DecidableEq, Repr

namespace Event

/-- How important an event is. -/
inductive Level where
  /-- Single blocks. -/
  | trace
  /-- Growth. -/
  | debug
  /-- Requests that were not served. -/
  | warn
  deriving DecidableEq, Repr

/-- The name of a level. -/
def Level.name : Level → String
  | .trace => "TRACE"
  | .debug => "DEBUG"
  | .warn => "WARN"

/-- The level of an event. -/
def level : Event → Level
  | .arenaMapped .. | .poolGrew .. => .debug
  | .growthFailed .. | .poolExhausted .. | .mappingRefused .. => .warn
  | .oversizedMapped .. | .oversizedUnmapped .. => .trace

/-- The message of an event. -/
def message : Event → String
  | .arenaMapped .. => "mapped new arena"
  | .poolGrew .. => "arena pool grew"
  | .growthFailed .. => "failed to grow arena pool"
  | .poolExhausted .. => "arena pool is exhausted"
  | .mappingRefused .. => "operating system refused to map memory"
  | .oversizedMapped .. => "mapped oversized block"
  | .oversizedUnmapped .. => "unmapping oversized block"

end Event

end BlockHeap
