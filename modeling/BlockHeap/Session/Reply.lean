import BlockHeap.Heap.Call
import BlockHeap.Runs

/-!
# Replies

What a step of a session is answered with. A `Reply` has a body, the replies to the steps that were nested in the step,
and what can be seen of the container and of the operating system afterwards.
-/

namespace BlockHeap.Session

/-- What is known about a pool. -/
structure PoolInfo where
  blockSize : Nat
  /-- The number of slots claimed. -/
  arenas : Nat
  maxArenas : Nat
  deriving DecidableEq, Repr

/-- What is known about a pool. -/
def PoolInfo.ofPool (p : Pool) : PoolInfo := ⟨p.blockSize, p.count, p.maxArenas⟩

/-- What is known about a container. -/
inductive Info where
  /-- The size and the number of the blocks, and the bytes that they take. -/
  | arena (blockSize blockCount usable : Nat)
  /-- The block size and the arenas of a pool. -/
  | pool (info : PoolInfo)
  | registry
  /-- The layout of the elements, and whether memory can be returned through an allocator for another type. -/
  | allocator (size align : Nat) (interchangeable : Bool)
  deriving DecidableEq, Repr

/-- What can be seen of a container after a step. -/
inductive Status where
  | arena (full : Bool)
  /-- The number of slots claimed. -/
  | pool (arenas : Nat)
  /-- The classes whose pools have slots claimed, with their number. -/
  | registry (active : List (Nat × Nat))
  deriving DecidableEq, Repr

/-- Why a series of allocations ended early. -/
inductive Stop where
  /-- There was no block, and no reason given. -/
  | nothing
  | failure (f : Failure)
  deriving DecidableEq, Repr

/-- Where the blocks of a series of allocations lie. -/
inductive Whereabouts where
  | runs (runs : Runs.Summary)
  /-- In a pool that others use too: whether they all are its own, and whether they differ. -/
  | shared (owned distinct : Bool)
  /-- In mappings of their own: the lengths of these, and whether the blocks were zero. -/
  | oversized (lens : List Nat) (zeroed : Bool)
  deriving DecidableEq, Repr

/-- The answer to a series of allocations. -/
structure Allocated where
  first : Nat
  count : Nat
  /-- Why there are not more, if there should be. -/
  stop : Option Stop
  /-- The size of the blocks, `SizeClass.unclassed` where they have mappings of their own. -/
  sizeClass : Nat
  /-- Whether all blocks are aligned to their size, or to pages if they are larger. -/
  aligned : Bool
  whereabouts : Whereabouts

/-- What a step is answered with. -/
inductive Body where
  | badInput
  | failed (f : Failure)
  | created (info : Info)
  | allocated (a : Allocated)
  /-- Blocks were returned; the fault ended it. -/
  | freed (count : Nat) (stop : Option Fault)
  | owns (answer : Bool)
  | info (info : Info)
  | description (text : String)
  /-- One pool of a registry, if it has it. -/
  | pool (info : Option PoolInfo)
  | dropped
  /-- The steps of a thread were carried out. -/
  | thread

/-- The numbers of mappings in place: of the length of an arena's region, and of other lengths. -/
structure Mapped where
  /-- The mappings of the length of an arena's region. -/
  regions : Nat
  others : Nat
  deriving DecidableEq, Repr

/-- The numbers of mappings in place on an operating system. -/
def Mapped.ofOs (os : Os) : Mapped :=
  let regions := os.countOfLen Arena.regionBytes
  ⟨regions, os.liveCount - regions⟩

/-- The answer to a step. -/
structure Reply where
  body : Body
  /-- The answers to the steps nested in this one. -/
  inner : List Reply
  status : Option Status
  /-- What can be seen of the operating system. -/
  mapped : Option Mapped
  events : List Event

namespace Reply

/-- The reply to a step that cannot be carried out. -/
def bad : Reply := ⟨.badInput, [], none, none, []⟩

end Reply

end BlockHeap.Session
