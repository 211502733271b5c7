import BlockHeap.Heap.Oversized
import BlockHeap.Text

/-!
# A session with the operating system

Steps that make mappings, oversized blocks, and one value with a mapping of its own.
-/

namespace BlockHeap.Session

/-- A step on the operating system. Where memory is mapped, `refuse` turns the request down. -/
inductive MappingStep where
  | malformed
  | pageSize
  | mapping (size : Nat) (refuse : Bool)
  | mapOversized (size : Nat) (refuse : Bool)
  | unmapOversized (block : Nat)
  /-- Puts a number and a tracked name into a mapping of their own. -/
  | house (number : Nat) (name : String) (refuse : Bool)
  | get
  | assign (number : Nat)
  /-- Gives the ownership of the value up, but not the value. -/
  | leak
  | adopt
  | destroy

/-- What is known about memory that was mapped. -/
structure Region where
  len : Nat
  aligned : Bool
  zeroed : Bool

/-- What a step on the operating system is answered with. -/
inductive MappingBody where
  | badInput
  | failed (f : Failure)
  | pageSize (n : Nat)
  /-- A mapping was there for a moment. -/
  | mapping (region : Region) (description : String)
  | block (number : Nat) (region : Region)
  | number (n : Nat)
  | description (text : String)
  /-- It was done, and there is nothing to tell. -/
  | done

/-- The answer to a step on the operating system. -/
structure MappingReply where
  body : MappingBody
  destroyed : List String
  mapped : Nat
  events : List Event

/-- The state of a session with the operating system. -/
structure Mappings where
  heap : Heap
  logging : Bool
  /-- The oversized blocks and their sizes; `none` where one is gone. -/
  blocks : Array (Option (Nat × Nat))
  /-- The value with a mapping of its own. -/
  resident : Option (Resident (Nat × String))
  /-- Whether the ownership of the value was given up. -/
  leaked : Bool

namespace Mappings

/-- A new session on a new operating system. -/
def start (logging : Bool) : Mappings := ⟨.fresh, logging, #[], none, false⟩

/-- The number of bytes of a number, a name, and the handle of their mapping. -/
def residentBytes : Nat := 8 + 24 + Oversized.handleBytes

/-- The description of a number and a tracked name. -/
def describe (v : Nat × String) : String :=
  Text.wrapped "" [toString v.1, Text.wrapped "Tracked" [Text.quoted v.2]]

/-- A call in which the first request for a mapping may be turned down. -/
def call (s : Mappings) (refuse : Bool) : Call Unit := ⟨s.heap, (), [⟨id, refuse⟩], [], #[]⟩

/-- What is known about memory from an address on that was just mapped. -/
def region (h : Heap) (start size len : Nat) : Region :=
  ⟨len, start % BlockHeap.pageSize = 0, h.memory.isZero start size⟩

/-- Ends a step. -/
def finish (s : Mappings) (c : Call Unit) (body : MappingBody) (destroyed : List String) : MappingReply × Mappings :=
  let s := { s with heap := c.heap }
  (⟨body, destroyed, s.heap.os.liveCount, if s.logging then c.events.toList else []⟩, s)

/-- Ends a step that changes nothing. -/
def answer (s : Mappings) (body : MappingBody) : MappingReply × Mappings := s.finish (s.call false) body []

/-- Maps and unmaps. -/
def mapping (s : Mappings) (size : Nat) (refuse : Bool) : MappingReply × Mappings :=
  match (s.call refuse).map size with
  | (.error e, c) => s.finish c (.failed (.error e)) []
  | (.ok m, c) => s.finish (c.unmap m) (.mapping (region c.heap m.start m.len m.len) m.describe) []

/-- Maps an oversized block. -/
def mapOversized (s : Mappings) (size : Nat) (refuse : Bool) : MappingReply × Mappings :=
  match (s.call refuse).mapOversized size with
  | (.error f, c) => s.finish c (.failed f) []
  | (.ok block, c) =>
    let len := match c.heap.os.space.live.find? (·.start == block) with
      | some m => m.len
      | none => 0
    let s' := { s with blocks := s.blocks.push (some (block, size)) }
    s'.finish c (.block s.blocks.size (region c.heap block size len)) []

/-- Unmaps an oversized block. -/
def unmapOversized (s : Mappings) (number : Nat) : MappingReply × Mappings :=
  match s.blocks[number]?.join with
  | none => s.answer .badInput
  | some (block, size) =>
    match (s.call false).unmapOversized block size with
    | (.error f, c) => s.finish c (.failed (.fault f)) []
    | (.ok (), c) => { s with blocks := s.blocks.setIfInBounds number none }.finish c .done []

/-- Puts a value into a mapping of its own. -/
def house (s : Mappings) (v : Nat × String) (refuse : Bool) : MappingReply × Mappings :=
  if s.resident.isSome then s.answer .badInput
  else
    match (s.call refuse).house v residentBytes with
    | (.error e, c) => s.finish c (.failed (.error e)) [v.2]
    | (.ok resident, c) =>
      { s with resident := some resident, leaked := false }.finish c (.description (describe v)) []

/-- Does something with the value, if it is there and its ownership is given up or not. -/
def withResident (s : Mappings) (leaked : Bool) (f : Resident (Nat × String) → MappingReply × Mappings) :
    MappingReply × Mappings :=
  match s.resident with
  | some r => if s.leaked = leaked then f r else s.answer .badInput
  | none => s.answer .badInput

/-- Destroys the value and gives its mapping back. -/
def destroy (s : Mappings) (r : Resident (Nat × String)) : MappingReply × Mappings :=
  { s with resident := none }.finish ((s.call false).unmap r.mapping) .done [r.value.2]

/-- Carries out one step. -/
def step (s : Mappings) : MappingStep → MappingReply × Mappings
  | .malformed => s.answer .badInput
  | .pageSize => s.answer (.pageSize BlockHeap.pageSize)
  | .mapping size refuse => s.mapping size refuse
  | .mapOversized size refuse => s.mapOversized size refuse
  | .unmapOversized block => s.unmapOversized block
  | .house number name refuse => s.house (number, name) refuse
  | .get => s.withResident false fun r => s.answer (.number r.value.1)
  | .assign number =>
    s.withResident false fun r =>
      let v := (number, r.value.2)
      { s with resident := some { r with value := v } }.answer (.description (describe v))
  | .leak => s.withResident false fun _ => { s with leaked := true }.answer .done
  | .adopt => s.withResident true fun _ => { s with leaked := false }.answer .done
  | .destroy => s.withResident false s.destroy

/-- Carries out steps one after the other. -/
def run (s : Mappings) : List MappingStep → List MappingReply
  | [] => []
  | step :: steps =>
    let r := s.step step
    r.1 :: run r.2 steps

end Mappings

end BlockHeap.Session
