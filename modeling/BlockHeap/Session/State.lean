import BlockHeap.Session.Reply
import BlockHeap.Session.Step
import BlockHeap.Typed.Allocator

/-!
# The state of a session

Besides the heap, a session has its containers, the blocks that it was given, and the registry that serves typed
requests on the current thread.
-/

namespace BlockHeap

namespace Session

/-- Something that serves blocks. -/
inductive Container where
  /-- An arena, which the session itself owns. -/
  | arena (a : Arena)
  /-- A pool, by its number in the heap. -/
  | pool (k : Nat)
  /-- A registry, whose pools are in the heap. -/
  | registry (r : Registry)
  /-- An allocator for elements of one type, served by the registry of the thread. -/
  | allocator (element : Element)

/-- A block that was handed out. -/
structure Block where
  /-- Its first address. -/
  address : Nat
  /-- What was asked for: a number of bytes or of elements. -/
  request : Nat
  /-- The number of bytes asked for, where the container knows it. -/
  bytes : Nat
  /-- Whether it has a mapping of its own, and still has it. -/
  oversized : Bool
  deriving Inhabited

/-- An address that is never mapped. It stands for all addresses that a session did not get from its containers: where
mappings lie, and how far apart, is the operating system's affair, so nobody outside can name an address in one. -/
def nowhere : Nat := 0

/-- The address `delta` bytes off the start of a block. At the distance that mappings keep from one another it says
nothing any more about the block. -/
def Block.offset (b : Block) (delta : Int) : Nat :=
  if delta.natAbs < Os.spacing then Size.shift b.address delta else nowhere

end Session

/-- The state of a session beside the heap. -/
structure Session where
  policy : Policy
  /-- Whether anything that depends on the registry's past is hidden, as it is when a whole process shares it. -/
  discreet : Bool
  logging : Bool
  /-- The containers; `none` where one was given up. -/
  containers : Array (Option Session.Container)
  blocks : Array Session.Block
  home : Registry
  /-- The replies to nested steps that were not told yet. -/
  replies : Array Session.Reply

namespace Session

/-- A new session on a new heap. -/
def start (policy : Policy) (discreet logging : Bool) : Except Fault (Heap × Session) :=
  match Registry.create .fresh policy with
  | (.error f, _) => .error f
  | (.ok home, h) => .ok (h, ⟨policy, discreet, logging && !discreet, #[], #[], home, #[]⟩)

/-- The container of a given number. -/
def container? (s : Session) (on : Nat) : Option Container := s.containers[on]?.join

/-- Puts a container in the place of another. -/
def setContainer (s : Session) (on : Nat) (k : Option Container) : Session :=
  { s with containers := s.containers.setIfInBounds on k }

/-- Gets a container to work with. An arena is taken out, since it changes; other containers stay. -/
def checkOut (s : Session) (on : Nat) : Option Container × Session :=
  match s.container? on with
  | some (.arena a) => (some (.arena a), s.setContainer on none)
  | k => (k, s)

/-- Puts an arena back. -/
def checkIn (s : Session) (on : Nat) : Container → Session
  | .arena a => s.setContainer on (some (.arena a))
  | _ => s

/-- The allocator for elements of a type on the current thread. -/
def allocator (s : Session) (element : Element) : Allocator := ⟨s.home, element⟩

namespace Container

/-- What is known about a container. -/
def info (k : Container) (h : Heap) (s : Session) : Info :=
  match k with
  | .arena a => .arena a.blockSize a.blockCount a.usable
  | .pool k => .pool (.ofPool (h.pool k))
  | .registry _ => .registry
  | .allocator e =>
    let a := s.allocator e
    .allocator e.size e.align (a.interchangeable (a.rebind ⟨1, 1⟩))

/-- What can be seen of a container. -/
def status (k : Container) (h : Heap) (s : Session) : Status :=
  match k with
  | .arena a => .arena a.isFull
  | .pool k => .pool (h.pool k).count
  | .registry r => .registry (r.active h)
  | .allocator _ => .registry (s.home.active h)

/-- The description of a container. -/
def describe (k : Container) (h : Heap) (s : Session) : String :=
  match k with
  | .arena a => a.describe
  | .pool k => (h.pool k).describe
  | .registry r => r.describe h
  | .allocator e => (s.allocator e).describe

/-- Whether a container owns an address; `none` where this cannot be asked. -/
def owns? (k : Container) (h : Heap) (address : Nat) : Option Bool :=
  match k with
  | .arena a => some (a.owns address)
  | .pool k => some ((h.pool k).owns address)
  | _ => none

/-- Gives back what a container has mapped for itself. -/
def drop (k : Container) (h : Heap) : Heap :=
  match k with
  | .arena a => h.unmap a.region
  | .pool k => h.dropPool k
  | .registry r => r.drop h
  | .allocator _ => h

end Container

/-- The events that are told. -/
def told (s : Session) (events : Array Event) : List Event := if s.logging then events.toList else []

/-- A reply with all that can be seen of a container and the operating system. -/
def reply (s : Session) (h : Heap) (k : Container) (body : Body) (inner : List Reply) (events : Array Event) : Reply :=
  if s.discreet then ⟨body, inner, none, none, s.told events⟩
  else ⟨body, inner, some (k.status h s), some (.ofOs h.os), s.told events⟩

/-- A reply with what can be seen of the operating system alone. -/
def replyMapped (s : Session) (h : Heap) (body : Body) (events : Array Event) : Reply :=
  ⟨body, [], none, if s.discreet then none else some (.ofOs h.os), s.told events⟩

end Session

end BlockHeap
