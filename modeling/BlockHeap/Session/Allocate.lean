import BlockHeap.Session.State

/-!
# Taking blocks in a session

`takeMany` takes blocks from a container until it has as many as asked for, or the first one that cannot be had;
`allocated` sums them up.
-/

namespace BlockHeap.Session

/-- The answer to one allocation: a block, or why there is none. -/
abbrev Taken := Except Stop Nat

/-- An allocation that failed is told as such. -/
def Taken.ofResult (r : Except Failure Nat) : Taken := r.mapError .failure

/-- The block behind a pointer, if there is one. -/
def Taken.ofPointer : Except Failure Pointer → Taken
  | .ok (.block a) => .ok a
  | .ok (.dangling _) => .error .nothing
  | .error f => .error (.failure f)

/-- The block of an arena, if there is one. -/
def Taken.ofArena : Except Fault (Option Nat) → Taken
  | .ok (some a) => .ok a
  | .ok none => .error .nothing
  | .error f => .error (.failure (.fault f))

namespace Container

/-- Takes one block. -/
def take (k : Container) (c : Call Session) (request : Nat) : Taken × Container × Call Session :=
  match k with
  | .arena a =>
    let r := a.allocate
    (.ofArena r.1, .arena r.2, c)
  | .pool k =>
    let r := c.allocate k
    (.ofResult r.1, .pool k, r.2)
  | .registry g =>
    let r := g.allocate c request
    (.ofResult r.1, .registry g, r.2)
  | .allocator e =>
    let r := (c.rest.allocator e).allocate c request
    (.ofPointer r.1, .allocator e, r.2)

/-- Takes up to `n` blocks, and adds them to those taken before. -/
def takeMany (k : Container) (c : Call Session) (request : Nat) (taken : Array Nat) :
    (n : Nat) → Option Stop × Array Nat × Container × Call Session
  | 0 => (none, taken, k, c)
  | n + 1 =>
    match k.take c request with
    | (.ok a, k, c) => takeMany k c request (taken.push a) n
    | (.error e, k, c) => (some e, taken, k, c)

/-- The number of bytes that a request is for; a container with blocks of one size does not know it. -/
def requestBytes (k : Container) (request : Nat) : Nat :=
  match k with
  | .arena _ | .pool _ => 0
  | .registry _ => request
  | .allocator e => (e.bytes? request).toOption.getD 0

/-- The size of the blocks for a request, `SizeClass.unclassed` where there is none. -/
def sizeClass (k : Container) (h : Heap) (request : Nat) : Nat :=
  match k with
  | .arena a => a.blockSize
  | .pool k => (h.pool k).blockSize
  | .registry _ => SizeClass.fitting request
  | .allocator e =>
    match e.bytes? request with
    | .error _ | .ok 0 => SizeClass.unclassed
    | .ok bytes => SizeClass.fitting bytes

/-- The pool that serves requests of a number of bytes. -/
def servingPool? (k : Container) (s : Session) (bytes : Nat) : Option Nat :=
  let ofRegistry (r : Registry) := (r.route bytes).toOption.join
  match k with
  | .arena _ => none
  | .pool k => some k
  | .registry r => ofRegistry r
  | .allocator _ => ofRegistry s.home

end Container

/-- Whether no address occurs twice. -/
def allDistinct (addresses : Array Nat) : Bool :=
  let sorted := addresses.qsort (· < ·)
  (List.range (sorted.size - 1)).all fun i => sorted[i]? != sorted[i + 1]?

/-- Whether all blocks are aligned to their size, or to pages if they are larger or have mappings of their own. -/
def allAligned (sizeClass : Nat) (addresses : Array Nat) : Bool :=
  let unit := if sizeClass = SizeClass.unclassed then pageSize else min sizeClass pageSize
  addresses.all fun a => a % unit = 0

/-- The length of the mapping of an oversized block, found through its handle. -/
def oversizedLen (m : Memory) (bytes address : Nat) : Nat :=
  match (Oversized.handleOffset? bytes).bind fun offset => m.read? (address + offset) with
  | some (.handle mapping) => mapping.len
  | _ => 0

/-- The runs of blocks of an arena. -/
def arenaRuns (a : Arena) (addresses : Array Nat) : Runs :=
  addresses.foldl (fun rs p => rs.push 0 (a.blockIndex p)) .empty

/-- The runs of blocks of a pool. -/
def poolRuns (p : Pool) (addresses : Array Nat) : Runs :=
  addresses.foldl (fun rs a => match p.locate? a with | some (i, b) => rs.push i b | none => rs) .empty

/-- Where blocks lie that were just taken from a container. -/
def whereabouts (k : Container) (h : Heap) (s : Session) (sizeClass bytes : Nat) (addresses : Array Nat) :
    Whereabouts :=
  if sizeClass = SizeClass.unclassed then
    .oversized (addresses.toList.map (oversizedLen h.memory bytes)) (addresses.all fun a => h.memory.isZero a bytes)
  else
    match k with
    | .arena a => .runs (arenaRuns a addresses).summary
    | _ =>
      let pool := ((k.servingPool? s bytes).map h.pool).getD .vacant
      if s.discreet then .shared (addresses.all pool.owns) (allDistinct addresses)
      else .runs (poolRuns pool addresses).summary

/-- The end of a series of allocations: the blocks get their handles, and the arena goes back to its place. -/
def finishAllocation (on : Nat) (k : Container) (c : Call Session) (request : Nat) (stop : Option Stop)
    (addresses : Array Nat) (outer : Array Reply) : Reply × (Heap × Session) :=
  let h := c.heap
  let s := c.rest
  let inner := s.replies.toList
  let sizeClass := k.sizeClass h request
  let bytes := k.requestBytes request
  let body : Body := .allocated {
    first := s.blocks.size
    count := addresses.size
    stop
    sizeClass
    aligned := allAligned sizeClass addresses
    whereabouts := whereabouts k h s sizeClass bytes addresses }
  let oversized := sizeClass = SizeClass.unclassed
  let reply := s.reply h k body inner c.events
  let s := s.checkIn on k
  let blocks := addresses.foldl (fun bs a => bs.push ⟨a, request, bytes, oversized⟩) s.blocks
  (reply, h, { s with blocks, replies := outer })

/-- Takes up to `count` blocks from a container, with what others do in the meantime. -/
def allocate (on count request : Nat) (decisions : List (Decision Session)) (growths : List (Interlude Session))
    (h : Heap) (s : Session) : Reply × (Heap × Session) :=
  match s.checkOut on with
  | (none, s) => (.bad, h, s)
  | (some k, s) =>
    let outer := s.replies
    let c : Call Session := ⟨h, { s with replies := #[] }, decisions, growths, #[]⟩
    match k.takeMany c request #[] count with
    | (stop, addresses, k, c) => finishAllocation on k c request stop addresses outer

end BlockHeap.Session
