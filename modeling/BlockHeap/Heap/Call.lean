import BlockHeap.Event
import BlockHeap.Heap.Basic

/-!
# Calls in progress

A call to the allocator is not alone: while the operating system is busy with a mapping, and when a pool has just
grown, others may use the same heap. A `Call` carries the heap together with `rest`, whatever else those others work
on, and knows what they will do: `decisions` has an entry for each mapping that the call will ask for, `growths` one
for each time it makes a pool grow. When a list has run out, mappings are granted and nobody interferes.

The events that the call logs are collected in order; those of the others are not among them.
-/

namespace BlockHeap

/-- Why a call ended without what it was asked for. -/
inductive Failure where
  /-- The request cannot be served. -/
  | error (e : AllocError)
  /-- A promise was broken. -/
  | fault (f : Fault)
  /-- The growth of a pool went on for more rounds than the pool has slots. -/
  | stalled
  deriving DecidableEq, Repr

/-- What others do to the heap, and to whatever else they work on. -/
abbrev Interlude (ε : Type) := Heap × ε → Heap × ε

/-- How the operating system answers a request for a mapping. -/
structure Decision (ε : Type) where
  meanwhile : Interlude ε
  refuse : Bool

/-- The answer of an operating system that has nothing else to do. -/
def Decision.grant {ε : Type} : Decision ε := ⟨id, false⟩

/-- A call in progress. -/
structure Call (ε : Type) where
  heap : Heap
  /-- What else the others work on. -/
  rest : ε
  /-- The answers to the next requests for mappings. -/
  decisions : List (Decision ε)
  /-- What others do at the next growths of a pool. -/
  growths : List (Interlude ε)
  events : Array Event

namespace Call

variable {ε : Type}

/-- A call that nobody interferes with. -/
def alone (heap : Heap) (rest : ε) : Call ε := ⟨heap, rest, [], [], #[]⟩

/-- Logs an event. -/
def log (c : Call ε) (e : Event) : Call ε := { c with events := c.events.push e }

/-- Lets others work. -/
def interlude (c : Call ε) (others : Interlude ε) : Call ε :=
  let r := others (c.heap, c.rest)
  { c with heap := r.1, rest := r.2 }

/-- Does something with a pool. -/
@[specialize] def onPool {α : Type} (c : Call ε) (k : Nat) (f : Pool → α × Pool) : α × Call ε :=
  let r := c.heap.onPool k f
  (r.1, { c with heap := r.2 })

/-- Changes a pool. -/
def modifyPool (c : Call ε) (k : Nat) (f : Pool → Pool) : Call ε :=
  (c.onPool k fun p => ((), f p)).2

/-- Gives a mapping back. -/
def unmap (c : Call ε) (m : Mapping) : Call ε := { c with heap := c.heap.unmap m }

/-- Asks the operating system for a mapping. -/
def map (c : Call ε) (size : Nat) : Except AllocError Mapping × Call ε :=
  let d := c.decisions.headD .grant
  let c := { c with decisions := c.decisions.tail }
  let c := c.interlude d.meanwhile
  let r := c.heap.os.map size d.refuse
  let c := { c with heap := { c.heap with os := r.2 } }
  match r.1 with
  | .ok m => (.ok m, c)
  | .error e => (.error (.map size e), c.log (.mappingRefused size e))

/-- Puts a value of `size` bytes into a mapping of its own. -/
def house {α : Type} (c : Call ε) (value : α) (size : Nat) : Except AllocError (Resident α) × Call ε :=
  match c.map size with
  | (.ok mapping, c) => (.ok ⟨value, mapping⟩, c)
  | (.error e, c) => (.error e, c)

/-- Lets others work on the occasion of a growth. -/
def announceGrowth (c : Call ε) : Call ε :=
  let others := c.growths.headD id
  ({ c with growths := c.growths.tail }).interlude others

end Call

end BlockHeap
