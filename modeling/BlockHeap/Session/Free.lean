import BlockHeap.Session.State

/-!
# Returning blocks in a session

`freeMany` returns selected blocks one after the other, up to the first fault. A block that was never handed out cannot
be returned at all, and neither can something be returned as an oversized block that is none: nobody checks the latter,
so a session does not do it.
-/

namespace BlockHeap.Session

/-- What came of returning one block. -/
inductive Returned where
  /-- The container took it, or ignored it. -/
  | taken
  /-- The container found a fault. -/
  | refused (f : Fault)
  /-- It was not even tried. -/
  | impossible

/-- The answer of a container. -/
def Returned.ofResult : Except Fault Unit → Returned
  | .ok () => .taken
  | .error f => .refused f

/-- Whether a block may be returned as an oversized block of a number of bytes. -/
def Block.admits (b : Block) (bytes : Nat) (delta : Int) : Bool := b.oversized && b.bytes == bytes && delta == 0

/-- Marks a block that gave its mapping back. -/
def markReturned (c : Call Session) (handle : Nat) : Call Session :=
  let s := c.rest
  { c with rest := { s with blocks := s.blocks.modify handle fun b => { b with oversized := false } } }

namespace Container

/-- Returns a block for a number of bytes to a registry. -/
def giveBytes (c : Call Session) (r : Registry) (handle : Nat) (b : Block) (delta : Int) (bytes : Nat) :
    Returned × Call Session :=
  let address := b.offset delta
  if SizeClass.fitting bytes = SizeClass.unclassed then
    if b.admits bytes delta then
      let r := r.deallocate c address bytes
      (.ofResult r.1, markReturned r.2 handle)
    else (.impossible, c)
  else
    let r := r.deallocate c address bytes
    (.ofResult r.1, r.2)

/-- Returns one block. -/
def give (k : Container) (c : Call Session) (handle : Nat) (b : Block) (delta : Int) (request : Nat) :
    Returned × Container × Call Session :=
  match k with
  | .arena a =>
    let r := a.deallocate (b.offset delta)
    (.ofResult r.1, .arena r.2, c)
  | .pool k =>
    let r := c.deallocate k (b.offset delta)
    (.ofResult r.1, .pool k, r.2)
  | .registry g =>
    let r := giveBytes c g handle b delta request
    (r.1, .registry g, r.2)
  | .allocator e =>
    match e.bytes? request with
    | .error _ | .ok 0 =>
      let r := (c.rest.allocator e).deallocate c (b.offset delta) request
      (.ofResult r.1, .allocator e, r.2)
    | .ok bytes =>
      let r := giveBytes c c.rest.home handle b delta bytes
      (r.1, .allocator e, r.2)

end Container

/-- How a series of returns ended, after a number of them. -/
inductive FreeEnd where
  | done
  | fault (f : Fault)
  /-- A block could not even be tried. -/
  | impossible

/-- Returns the blocks of a selection from number `i` on, after `i` of them. -/
def freeMany (k : Container) (c : Call Session) (blocks : Selection) (delta : Int) (request : Option Nat) (i : Nat) :
    (n : Nat) → FreeEnd × Nat × Container × Call Session
  | 0 => (.done, i, k, c)
  | n + 1 =>
    match blocks.handle? i with
    | none => (.impossible, i, k, c)
    | some handle =>
      match c.rest.blocks[handle]? with
      | none => (.impossible, i, k, c)
      | some b =>
        match k.give c handle b delta (request.getD b.request) with
        | (.taken, k, c) => freeMany k c blocks delta request (i + 1) n
        | (.refused f, k, c) => (.fault f, i, k, c)
        | (.impossible, k, c) => (.impossible, i, k, c)

/-- Returns blocks to a container. -/
def free (on : Nat) (blocks : Selection) (delta : Int) (request : Option Nat) (h : Heap) (s : Session) :
    Reply × (Heap × Session) :=
  match s.checkOut on with
  | (none, s) => (.bad, h, s)
  | (some k, s) =>
    match blocks.listable with
    | .error f => ({ Reply.bad with body := .failed (.fault f) }, h, s.checkIn on k)
    | .ok () =>
      match freeMany k (.alone h s) blocks delta request 0 blocks.count with
      | (stop, freed, k, c) =>
        let s := c.rest
        let reply := match stop with
          | .done => s.reply c.heap k (.freed freed none) [] c.events
          | .fault f => s.reply c.heap k (.freed freed (some f)) [] c.events
          | .impossible => { Reply.bad with events := s.told c.events }
        (reply, c.heap, s.checkIn on k)

/-- Returns a null pointer to an allocator. -/
def freeNull (on request : Nat) (h : Heap) (s : Session) : Reply × (Heap × Session) :=
  match s.container? on with
  | some (.allocator e) =>
    match (s.allocator e).deallocate (.alone h s) 0 request with
    | (r, c) =>
      let stop := match r with
        | .ok () => none
        | .error f => some f
      (c.rest.reply c.heap (.allocator e) (.freed 0 stop) [] c.events, c.heap, c.rest)
  | _ => (.bad, h, s)

end BlockHeap.Session
