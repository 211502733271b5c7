import BlockHeap.Owned.Basic
import BlockHeap.Session.Reply

/-!
# A session with boxes

Steps that make boxes, read and change their values and do away with them. Boxes are known by the order in which they
were made.
-/

namespace BlockHeap.Session

/-- A step on boxes. -/
inductive BoxStep where
  | malformed
  /-- Makes a box; `refusals` tells which requests for mappings are turned down. -/
  | create (kind : Kind) (value : Reading) (refusals : List Bool)
  | get (box : Nat)
  | describe (box : Nat)
  | assign (box : Nat) (value : Reading) (refusals : List Bool)
  /-- Does away with a box and its value. -/
  | destroy (box : Nat)
  | moveOut (box : Nat)

/-- What a step on boxes is answered with. -/
inductive BoxBody where
  | badInput
  | failed (f : Failure)
  /-- The number of the new box, its value, and where it lies: class, slot and number of the block. -/
  | created (number : Nat) (value : Shown) (place : Option (Nat × Nat × Nat))
  /-- The value in a box, or the one taken out of it. -/
  | value (value : Shown)
  | description (text : String)
  | done

/-- The answer to a step on boxes. -/
structure BoxReply where
  body : BoxBody
  destroyed : List String
  /-- The classes whose pools have slots claimed, with their number. -/
  active : Option (List (Nat × Nat))
  events : List Event

/-- The state of a session with boxes. -/
structure Boxes where
  heap : Heap
  home : Registry
  logging : Bool
  /-- The boxes; `none` where one is gone. -/
  boxes : Array (Option Boxed)

namespace Boxes

/-- A new session on a new heap. -/
def start (policy : Policy) (logging : Bool) : Except Fault Boxes :=
  match Registry.create .fresh policy with
  | (.error f, _) => .error f
  | (.ok home, heap) => .ok ⟨heap, home, logging && policy == .threadLocal, #[]⟩

/-- The box of a given number. -/
def box? (s : Boxes) (i : Nat) : Option Boxed := s.boxes[i]?.join

/-- A call in which some requests for mappings are turned down. -/
def call (s : Boxes) (refusals : List Bool) : Call Destroyed :=
  ⟨s.heap, #[], refusals.map fun refuse => ⟨id, refuse⟩, [], #[]⟩

/-- Where a box lies, if it takes any room and the registry is this thread's alone. -/
def place? (s : Boxes) (b : Boxed) : Option (Nat × Nat × Nat) :=
  if s.home.policy = .shared ∨ b.kind.element.size = 0 then none
  else do
    let k ← (s.home.route b.kind.element.size).toOption.join
    let p := s.heap.pool k
    let (slot, index) ← p.locate? b.address
    return (p.blockSize, slot, index)

/-- The value in a box as it is shown. -/
def shown (s : Boxes) (b : Boxed) : Shown :=
  b.kind.shown ((b.contents? s.heap.memory).getD .unit)

/-- Ends a step. -/
def finish (s : Boxes) (c : Call Destroyed) (body : Boxes → BoxBody) (change : Boxes → Boxes) : BoxReply × Boxes :=
  let s := { s with heap := c.heap }
  let active := if s.home.policy = .shared then none else some (s.home.active s.heap)
  let events := if s.logging then c.events.toList else []
  let farewells := c.rest.toList.filterMap fun v => v.1.farewell? v.2
  (⟨body s, farewells, active, events⟩, change s)

/-- Ends a step that cannot be carried out. -/
def bad (s : Boxes) : BoxReply × Boxes := s.finish (s.call []) (fun _ => .badInput) id

/-- Ends a step that failed. -/
def fail (s : Boxes) (c : Call Destroyed) (f : Failure) : BoxReply × Boxes := s.finish c (fun _ => .failed f) id

/-- Makes a box. -/
def create (s : Boxes) (kind : Kind) (value : Reading) (refusals : List Bool) : BoxReply × Boxes :=
  match kind.read? value with
  | none => s.bad
  | some contents =>
    match Boxed.create s.home (s.call refusals) kind contents with
    | (.error f, c) => s.fail c f
    | (.ok b, c) =>
      s.finish c (fun s => .created s.boxes.size (s.shown b) (s.place? b))
        fun s => { s with boxes := s.boxes.push (some b) }

/-- Puts another value into a box. -/
def assign (s : Boxes) (b : Boxed) (value : Reading) (refusals : List Bool) : BoxReply × Boxes :=
  match b.kind.read? value with
  | none => s.bad
  | some contents =>
    match Boxed.assign s.home (s.call refusals) b contents with
    | (.error f, c) => s.fail c f
    | (.ok (), c) => s.finish c (fun s => .value (s.shown b)) id

/-- Destroys a box. -/
def destroy (s : Boxes) (i : Nat) (b : Boxed) : BoxReply × Boxes :=
  match Boxed.destroy s.home (s.call []) b with
  | (.error f, c) => s.fail c (.fault f)
  | (.ok (), c) => s.finish c (fun _ => .done) fun s => { s with boxes := s.boxes.setIfInBounds i none }

/-- Moves the value out of a box, shows it, and destroys it. -/
def moveOut (s : Boxes) (i : Nat) (b : Boxed) : BoxReply × Boxes :=
  let value := s.shown b
  match Boxed.moveOut s.home (s.call []) b with
  | (.error f, c) => s.fail c (.fault f)
  | (.ok none, c) => s.fail c .stalled
  | (.ok (some v), c) =>
    match Boxed.destroyValue s.home c b.kind v with
    | (.error f, c) => s.fail c (.fault f)
    | (.ok (), c) => s.finish c (fun _ => .value value) fun s => { s with boxes := s.boxes.setIfInBounds i none }

/-- Does something with a box, if it exists. -/
def withBox (s : Boxes) (i : Nat) (f : Boxed → BoxReply × Boxes) : BoxReply × Boxes :=
  match s.box? i with
  | none => s.bad
  | some b => f b

/-- Carries out one step. -/
def step (s : Boxes) : BoxStep → BoxReply × Boxes
  | .malformed => s.bad
  | .create kind value refusals => s.create kind value refusals
  | .get i => s.withBox i fun b => s.finish (s.call []) (fun s => .value (s.shown b)) id
  | .describe i =>
    s.withBox i fun b =>
      s.finish (s.call []) (fun s => .description (b.kind.describe ((b.contents? s.heap.memory).getD .unit))) id
  | .assign i value refusals => s.withBox i fun b => s.assign b value refusals
  | .destroy i => s.withBox i (s.destroy i)
  | .moveOut i => s.withBox i (s.moveOut i)

/-- Carries out steps one after the other. -/
def run (s : Boxes) : List BoxStep → List BoxReply
  | [] => []
  | step :: steps =>
    let r := s.step step
    r.1 :: run r.2 steps

end Boxes

end BlockHeap.Session
