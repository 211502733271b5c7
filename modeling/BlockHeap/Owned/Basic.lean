import BlockHeap.Typed.Allocator

/-!
# Boxes

A box owns a value that lies in memory of the allocator. `Boxed.create` moves a value into a fresh block, `contents?`
reads it, `assign` puts another value in its place, `moveOut` moves it out again and returns the block, and `destroy`
does away with both. Values are destroyed where they are no longer needed: the record that the call carries along then
tells what they said, and boxes among them are destroyed in turn.
-/

namespace BlockHeap

/-- A box and the kind of its value. -/
structure Boxed where
  kind : Kind
  /-- Where the value lies; for values without size an address that must not be followed. -/
  address : Nat
  deriving DecidableEq, Repr

/-- The values that were destroyed, in order: their kinds, and what they said. -/
abbrev Destroyed := Array (Kind × Contents)

namespace Boxed

/-- The value in a box. -/
def value? (b : Boxed) (m : Memory) : Option Value :=
  if b.kind.element.size = 0 then some b.kind.only
  else
    match m.read? b.address with
    | some (.value v) => some v
    | _ => none

/-- Writes a value to the place of a box. -/
def write (c : Call Destroyed) (kind : Kind) (address : Nat) (v : Value) : Call Destroyed :=
  if kind.element.size = 0 then c
  else { c with heap := { c.heap with memory := c.heap.memory.write address kind.element.size (.value v) } }

/-- Returns the block of a box. -/
def release (r : Registry) (c : Call Destroyed) (b : Boxed) : Except Fault Unit × Call Destroyed :=
  let c :=
    if b.kind.element.size = 0 then c
    else { c with heap := { c.heap with memory := c.heap.memory.erase b.address b.kind.element.size } }
  Allocator.deallocate ⟨r, b.kind.element⟩ c b.address 1

/-- What a value of some kind says, seen through all boxes around it. -/
def contentsOf? (m : Memory) : Kind → Value → Option Contents
  | .box inner, .pointer address => do contentsOf? m inner (← (⟨inner, address⟩ : Boxed).value? m)
  | .box _, _ => none
  | .pair _ first second, .pair v w => do return .pair (← contentsOf? m first v) (← contentsOf? m second w)
  | .pair _ _ _, _ => none
  | _, .plain c => some c
  | _, _ => none

/-- What the value in a box says. -/
def contents? (b : Boxed) (m : Memory) : Option Contents := do contentsOf? m b.kind (← b.value? m)

/-- Destroys a value that lies nowhere any more. -/
def destroyValue (r : Registry) (c : Call Destroyed) : Kind → Value → Except Fault Unit × Call Destroyed
  | .box inner, .pointer address =>
    let b : Boxed := ⟨inner, address⟩
    match b.value? c.heap.memory with
    | none => release r c b
    | some v =>
      match destroyValue r c inner v with
      | (.error f, c) => (.error f, c)
      | (.ok (), c) => release r c b
  | .pair _ first second, .pair v w =>
    match destroyValue r c first v with
    | (.error f, c) => (.error f, c)
    | (.ok (), c) => destroyValue r c second w
  | kind, .plain contents => (.ok (), { c with rest := c.rest.push (kind, contents) })
  | _, _ => (.ok (), c)

/-- Moves a value into a fresh block. If there is none, the value is destroyed. -/
def ofValue (r : Registry) (c : Call Destroyed) (kind : Kind) (v : Value) : Except Failure Boxed × Call Destroyed :=
  match Allocator.allocate ⟨r, kind.element⟩ c 1 with
  | (.ok (.dangling address), c) => (.ok ⟨kind, address⟩, write c kind address v)
  | (.ok (.block address), c) => (.ok ⟨kind, address⟩, write c kind address v)
  | (.error e, c) =>
    match destroyValue r c kind v with
    | (.ok (), c) => (.error e, c)
    | (.error f, c) => (.error (.fault f), c)

/-- A value that says something. The boxes inside it are made from the innermost one outwards, those of a first value
before those of the second. -/
def makeValue (r : Registry) (c : Call Destroyed) : Kind → Contents → Except Failure Value × Call Destroyed
  | .box inner, contents =>
    match makeValue r c inner contents with
    | (.error e, c) => (.error e, c)
    | (.ok v, c) =>
      match ofValue r c inner v with
      | (.error e, c) => (.error e, c)
      | (.ok b, c) => (.ok (.pointer b.address), c)
  | .pair _ first second, .pair a b =>
    match makeValue r c first a with
    | (.error e, c) => (.error e, c)
    | (.ok v, c) =>
      match makeValue r c second b with
      | (.ok w, c) => (.ok (.pair v w), c)
      | (.error e, c) =>
        match destroyValue r c first v with
        | (.ok (), c) => (.error e, c)
        | (.error f, c) => (.error (.fault f), c)
  | _, contents => (.ok (.plain contents), c)

/-- A box with a value that says something. -/
def create (r : Registry) (c : Call Destroyed) (kind : Kind) (contents : Contents) :
    Except Failure Boxed × Call Destroyed :=
  match makeValue r c kind contents with
  | (.error e, c) => (.error e, c)
  | (.ok v, c) => ofValue r c kind v

/-- Puts a value in the place of the one in a box, which is destroyed. -/
def replace (r : Registry) (c : Call Destroyed) (b : Boxed) (v : Value) : Except Fault Unit × Call Destroyed :=
  match b.value? c.heap.memory with
  | none => (.ok (), write c b.kind b.address v)
  | some old =>
    match destroyValue r c b.kind old with
    | (.error f, c) => (.error f, c)
    | (.ok (), c) => (.ok (), write c b.kind b.address v)

/-- Puts a value that says something in the place of the one in a box. -/
def assign (r : Registry) (c : Call Destroyed) (b : Boxed) (contents : Contents) :
    Except Failure Unit × Call Destroyed :=
  match makeValue r c b.kind contents with
  | (.error e, c) => (.error e, c)
  | (.ok v, c) =>
    match replace r c b v with
    | (.error f, c) => (.error (.fault f), c)
    | (.ok (), c) => (.ok (), c)

/-- Moves the value out of a box, and returns the block. -/
def moveOut (r : Registry) (c : Call Destroyed) (b : Boxed) : Except Fault (Option Value) × Call Destroyed :=
  let v := b.value? c.heap.memory
  match release r c b with
  | (.ok (), c) => (.ok v, c)
  | (.error f, c) => (.error f, c)

/-- Destroys a box: first its value, then the block is returned. -/
def destroy (r : Registry) (c : Call Destroyed) (b : Boxed) : Except Fault Unit × Call Destroyed :=
  match b.value? c.heap.memory with
  | none => release r c b
  | some v =>
    match destroyValue r c b.kind v with
    | (.error f, c) => (.error f, c)
    | (.ok (), c) => release r c b

end Boxed

end BlockHeap
