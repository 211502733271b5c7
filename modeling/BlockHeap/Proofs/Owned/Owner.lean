import BlockHeap.Proofs.Owned.Owns

/-!
# What somebody has

An `Owner` has values, boxes among them, and memory for elements from allocators of the same registry. A `Deal` is one
thing that the owner does: a plain value comes to be, values are put together to a pair and taken apart, a value is
boxed, put into the place of the value in a box or taken out of its box, and a value is destroyed; and memory for
elements is taken, filled and given back.

Each value in hand goes with what it should say: what was last written to it. The plain values that came to be and those
that were destroyed are written down. Nothing of this is known to the heap.
-/

namespace BlockHeap

/-- Takes out the entry of a given number. -/
def pick? {α : Type} (l : List α) (i : Nat) : Option (α × List α) := l[i]?.map fun x => (x, l.eraseIdx i)

/-- A value in hand, and what it should say. -/
structure Held where
  kind : Kind
  value : Value
  said : Contents
  deriving DecidableEq, Repr

/-- Memory for a number of elements. -/
structure Lot where
  element : Element
  count : Nat
  address : Nat
  deriving DecidableEq, Repr

/-- What somebody has. -/
structure Owner where
  heap : Heap
  hands : List Held
  lots : List Lot
  /-- The plain values that came to be. -/
  made : List (Kind × Contents)
  /-- The plain values that were destroyed. -/
  destroyed : List (Kind × Contents)
  /-- Something went wrong that never should. -/
  faulted : Bool

/-- One thing that an owner does. Values and memory in hand are known by their numbers. -/
inductive Deal where
  /-- A plain value comes to be. -/
  | make (kind : Kind) (said : Contents)
  /-- Two values become a pair. -/
  | join (i j : Nat) (element : Element)
  /-- A pair is taken apart. -/
  | part (i : Nat)
  /-- A value is moved into a new box; `refusals` tells which requests for mappings are turned down. -/
  | enclose (i : Nat) (refusals : List Bool)
  /-- Value `j` takes the place of the one in a box inside value `i`. -/
  | replace (j i : Nat) (path : List Turn)
  /-- The value in a box is moved out of it. -/
  | moveOut (i : Nat)
  /-- A value is destroyed. -/
  | destroy (i : Nat)
  /-- Memory for elements is asked for. -/
  | allocate (element : Element) (count : Nat) (refusals : List Bool)
  /-- Something is written all over the memory for elements. -/
  | fill (i : Nat) (v : Value)
  /-- Memory for elements is given back. -/
  | deallocate (i : Nat)

namespace Held

/-- What is read in a value. -/
def read? (x : Held) (m : Memory) : Option Contents :=
  match x with
  | ⟨.box inner, .pointer address, _⟩ => Boxed.contents? ⟨inner, address⟩ m
  | ⟨kind, value, _⟩ => Boxed.contentsOf? m kind value

/-- Destroys a value. -/
def destroy (r : Registry) (c : Call Destroyed) (x : Held) : Except Fault Unit × Call Destroyed :=
  match x with
  | ⟨.box inner, .pointer address, _⟩ => Boxed.destroy r c ⟨inner, address⟩
  | ⟨kind, value, _⟩ => Boxed.destroyValue r c kind value

/-- The boxes that a value owns. -/
def boxes (m : Memory) (x : Held) : Multiset Boxed := Boxed.boxesOf m x.kind x.value

/-- The plain values among values in hand, in boxes and elsewhere. -/
def leaves (hands : Multiset Held) : Multiset (Kind × Contents) := hands.bind fun x => x.kind.leaves x.said

end Held

namespace Lot

/-- The memory after something was written all over it. -/
def fill (l : Lot) (m : Memory) (v : Value) : Memory :=
  if l.count * l.element.size = 0 then m else m.write l.address (l.count * l.element.size) (.value v)

/-- The blocks of memory for elements. -/
def rooms (r : Registry) (lots : Multiset Lot) : Multiset Block :=
  lots.bind fun l => Allocator.rooms ⟨r, l.element⟩ l.count l.address

end Lot

namespace Owner

/-- Somebody who has nothing. -/
def start (h : Heap) : Owner := ⟨h, [], [], [], [], false⟩

/-- A call of the owner. -/
def call (s : Owner) (refusals : List Bool) : Call Destroyed := Call.asking s.heap #[] refusals

/-- What the owner has after a call. -/
def after (s : Owner) (c : Call Destroyed) (hands : List Held) (lots : List Lot) : Owner :=
  ⟨c.heap, hands, lots, s.made, s.destroyed ++ c.rest.toList, s.faulted⟩

/-- Something has gone wrong. -/
def fault (s : Owner) : Owner := { s with faulted := true }

/-- A plain value comes to be. -/
def make (s : Owner) (kind : Kind) (said : Contents) : Owner :=
  if kind.Admits said then
    { s with hands := ⟨kind, .plain said, said⟩ :: s.hands, made := s.made ++ [(kind, said)] }
  else s

/-- Two values become a pair. They need no room if the pair has none. -/
def join (s : Owner) (x y : Held) (rest : List Held) (element : Element) : Owner :=
  if element.size = 0 → x.kind.element.size = 0 ∧ y.kind.element.size = 0 then
    { s with hands := ⟨.pair element x.kind y.kind, .pair x.value y.value, .pair x.said y.said⟩ :: rest }
  else s

/-- A pair is taken apart. -/
def part (s : Owner) (x : Held) (rest : List Held) : Owner :=
  match x with
  | ⟨.pair _ first second, .pair v w, .pair c d⟩ => { s with hands := ⟨first, v, c⟩ :: ⟨second, w, d⟩ :: rest }
  | _ => s

/-- A value is moved into a new box. If there is none, the value is gone. -/
def enclose (r : Registry) (s : Owner) (x : Held) (rest : List Held) (refusals : List Bool) : Owner :=
  match Boxed.ofValue r (s.call refusals) x.kind x.value with
  | (.ok b, c) => s.after c (⟨.box b.kind, .pointer b.address, x.said⟩ :: rest) s.lots
  | (.error (.error _), c) => s.after c rest s.lots
  | (.error _, c) => (s.after c rest s.lots).fault

/-- A value takes the place of the one in a box inside another value. -/
def replace (r : Registry) (s : Owner) (y x : Held) (rest : List Held) (path : List Turn) : Owner :=
  match Boxed.reach? s.heap.memory x.kind x.value path with
  | none => s
  | some b =>
    if b.kind = y.kind then
      match Boxed.replace r (s.call []) b y.value with
      | (.ok (), c) => s.after c (⟨x.kind, x.value, x.kind.put path x.said y.said⟩ :: rest) s.lots
      | (.error _, c) => (s.after c rest s.lots).fault
    else s

/-- The value in a box is moved out of it. -/
def moveOut (r : Registry) (s : Owner) (x : Held) (rest : List Held) : Owner :=
  match x with
  | ⟨.box inner, .pointer address, said⟩ =>
    match Boxed.moveOut r (s.call []) ⟨inner, address⟩ with
    | (.ok (some v), c) => s.after c (⟨inner, v, said⟩ :: rest) s.lots
    | (_, c) => (s.after c rest s.lots).fault
  | _ => s

/-- A value is destroyed. -/
def destroy (r : Registry) (s : Owner) (x : Held) (rest : List Held) : Owner :=
  match x.destroy r (s.call []) with
  | (.ok (), c) => s.after c rest s.lots
  | (.error _, c) => (s.after c rest s.lots).fault

/-- Memory for elements is asked for. -/
def allocate (r : Registry) (s : Owner) (element : Element) (count : Nat) (refusals : List Bool) : Owner :=
  match Allocator.allocate ⟨r, element⟩ (s.call refusals) count with
  | (.ok p, c) => s.after c s.hands (⟨element, count, p.address⟩ :: s.lots)
  | (.error (.error _), c) => s.after c s.hands s.lots
  | (.error _, c) => (s.after c s.hands s.lots).fault

/-- Memory for elements is given back. -/
def deallocate (r : Registry) (s : Owner) (l : Lot) (rest : List Lot) : Owner :=
  match Allocator.deallocate ⟨r, l.element⟩ (s.call []) l.address l.count with
  | (.ok (), c) => s.after c s.hands rest
  | (.error _, c) => (s.after c s.hands rest).fault

/-- Does something with a value in hand, if it exists. -/
def withHeld (s : Owner) (i : Nat) (f : Held → List Held → Owner) : Owner :=
  match pick? s.hands i with
  | some (x, rest) => f x rest
  | none => s

/-- Does something with two values in hand; the second number counts those that are left without the first. -/
def withTwo (s : Owner) (i j : Nat) (f : Held → Held → List Held → Owner) : Owner :=
  s.withHeld i fun x rest =>
    match pick? rest j with
    | some (y, rest) => f x y rest
    | none => s

/-- Does something with memory in hand, if it exists. -/
def withLot (s : Owner) (i : Nat) (f : Lot → List Lot → Owner) : Owner :=
  match pick? s.lots i with
  | some (l, rest) => f l rest
  | none => s

/-- One thing is done. What cannot be done leaves everything as it is. -/
def step (r : Registry) (s : Owner) : Deal → Owner
  | .make kind said => s.make kind said
  | .join i j element => s.withTwo i j fun x y rest => s.join x y rest element
  | .part i => s.withHeld i s.part
  | .enclose i refusals => s.withHeld i fun x rest => s.enclose r x rest refusals
  | .replace j i path => s.withTwo j i fun y x rest => s.replace r y x rest path
  | .moveOut i => s.withHeld i (s.moveOut r)
  | .destroy i => s.withHeld i (s.destroy r)
  | .allocate element count refusals => s.allocate r element count refusals
  | .fill i v => s.withLot i fun l _ => { s with heap := { s.heap with memory := l.fill s.heap.memory v } }
  | .deallocate i => s.withLot i (s.deallocate r)

/-- Things are done one after the other. -/
def run (r : Registry) (s : Owner) (deals : List Deal) : Owner := deals.foldl (step r) s

/-- The boxes of the owner: those in hand, those in other boxes, and those in pairs. -/
def boxes (s : Owner) : Multiset Boxed := (s.hands : Multiset Held).bind (Held.boxes s.heap.memory)

/-- The blocks held through allocators. -/
def lent (r : Registry) (s : Owner) : Multiset Block := Lot.rooms r s.lots

/-- All blocks of the owner: one for each box whose value takes room, and those held through allocators. -/
def blocks (r : Registry) (s : Owner) : Multiset Block := s.boxes.bind (Boxed.rooms r) + s.lent r

/-- The plain values that the owner has. -/
def leaves (s : Owner) : Multiset (Kind × Contents) := Held.leaves s.hands

/-- **Values and blocks are conserved.** -/
structure Conserves (os : Os) (r : Registry) (s : Owner) : Prop where
  /-- No call has gone wrong. -/
  faultless : s.faulted = false
  /-- A value, in a box or not, says what was last written to it. -/
  reads : ∀ x ∈ s.hands, x.read? s.heap.memory = some x.said
  /-- A plain value that came to be was destroyed, and only once, or the owner has it. -/
  once : (s.made : Multiset (Kind × Contents)) = s.destroyed + s.leaves
  /-- The blocks in use are those of boxes and those held through allocators. -/
  live : s.heap.Sound (s.blocks r) (fun _ => []) os.space.live
  /-- No two of them share an address. -/
  apart : ∀ b c : Block, b ::ₘ {c} ≤ s.blocks r → (s.heap.span b).Disjoint (s.heap.span c)
  /-- When all boxes are gone, the blocks in use are those held through allocators. -/
  gone : s.boxes = 0 → s.heap.Sound (s.lent r) (fun _ => []) os.space.live

end Owner

end BlockHeap
