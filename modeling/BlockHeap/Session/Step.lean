import BlockHeap.Pool.Settings
import BlockHeap.Session.Range
import BlockHeap.Typed.Element

/-!
# Steps of a session

A session makes containers (arenas, pools, registries, allocators), takes blocks from them and returns blocks to them.
Containers and blocks are known by the order in which they were made. Steps can be nested: a step that allocates says
what others do while the operating system maps memory for it, and whenever it has made a pool grow.
-/

namespace BlockHeap.Session

/-- A container to be made. -/
inductive Spec where
  | arena (blockSize : Nat)
  /-- A pool with the largest limit. -/
  | pool (blockSize : Nat)
  /-- A pool with settings; `none` stands for something that is no setting. -/
  | poolWith (changes : List (Option Pool.Settings.Change))
  | registry
  | allocator (element : Element)

/-- Blocks to be returned, by their handles. -/
inductive Selection where
  | handles (handles : Array Nat)
  /-- The handles of a range, or the same from the last to the first. -/
  | range (r : Range) (reverse : Bool)

namespace Selection

/-- The number of blocks selected. -/
def count : Selection → Nat
  | .handles hs => hs.size
  | .range r _ => r.count

/-- The handle of block number `i`. -/
def handle? (s : Selection) (i : Nat) : Option Nat :=
  match s with
  | .handles hs => hs[i]?
  | .range r reverse => some (r.item (if reverse then r.count - 1 - i else i))

/-- A selection that is too long to be listed is a fault. -/
def listable : Selection → Except Fault Unit
  | .handles _ => .ok ()
  | .range r _ => r.listable

end Selection

mutual

/-- One step. -/
inductive Step where
  | malformed
  | create (spec : Spec) (maps : List Reaction)
  /-- Takes up to `count` blocks from a container. -/
  | allocate (on count request : Nat) (maps : List Reaction) (grew : List (List Step))
  /-- Returns blocks to a container, `delta` bytes off their start, for the given request or for their own. -/
  | free (on : Nat) (blocks : Selection) (delta : Int) (request : Option Nat)
  | freeNull (on request : Nat)
  /-- Asks whether a container owns the address `delta` bytes off the start of a block. -/
  | owns (on handle : Nat) (delta : Int)
  /-- Asks whether a container owns an address from outside the session. -/
  | ownsOutside (on : Nat)
  | info (on : Nat)
  | describe (on : Nat)
  /-- Asks for the pool of a registry with blocks of a given size. -/
  | pool (on size : Nat)
  | drop (on : Nat)
  | thread (steps : List Step)

/-- How the operating system answers a request for a mapping. -/
inductive Reaction where
  /-- What others do in the meantime, and whether the request is then turned down. -/
  | mk (meanwhile : List Step) (refuse : Bool)

end

instance : Inhabited Step := ⟨.malformed⟩

instance : Inhabited Reaction := ⟨.mk [] false⟩

end BlockHeap.Session
