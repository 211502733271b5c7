import BlockHeap.Proofs.Heap.Sound
import BlockHeap.Registry

/-!
# Runs

A run takes blocks from a `Source`, a pool or a registry, and gives them back. Each allocation says how the operating
system answers its requests for mappings, and which operations others carry out in the meantime and at each growth of a
pool; these operations may again contain others, to any depth. A `Ledger` records the blocks in use, and the `Moment`s
of the run: the heap and the blocks in use at the beginning of each interlude and at the end of each operation. Between
them nobody but the allocator itself runs.
-/

namespace BlockHeap

/-- What serves requests. -/
inductive Source where
  /-- One pool. -/
  | pool (k : Nat)
  /-- The pools of a registry, and mappings of their own for large blocks. -/
  | registry (r : Registry)

namespace Source

variable {ε : Type}

/-- Allocates a number of bytes. -/
def allocate (src : Source) (c : Call ε) (bytes : Nat) : Except Failure Nat × Call ε :=
  match src with
  | .pool k => c.allocate k
  | .registry r => r.allocate c bytes

/-- Takes back a block that was allocated for a number of bytes. -/
def deallocate (src : Source) (c : Call ε) (address bytes : Nat) : Except Fault Unit × Call ε :=
  match src with
  | .pool k => c.deallocate k address
  | .registry r => r.deallocate c address bytes

/-- The pool that serves requests for a number of bytes, if a pool does. -/
def poolOf (src : Source) (bytes : Nat) : Option Nat :=
  match src with
  | .pool k => some k
  | .registry r =>
    match r.route bytes with
    | .ok k => k
    | .error _ => none

/-- Whether a block allocated for `asked` bytes may be given back as one of `bytes` bytes: the pool must be the same,
and where there is none the number. -/
def accepts (src : Source) (asked bytes : Nat) : Bool :=
  match src with
  | .pool _ => true
  | .registry _ =>
    SizeClass.fitting bytes = SizeClass.fitting asked &&
      (SizeClass.fitting asked ≠ SizeClass.unclassed || bytes = asked)

end Source

/-- The heap and the blocks in use at some time. -/
structure Moment where
  heap : Heap
  live : List Block

/-- The blocks in use, and the moments so far. -/
structure Ledger where
  live : List Block
  past : List Moment

/-- A heap, and what its users know about it. -/
abbrev Process := Heap × Ledger

namespace Process

/-- A heap with no blocks in use. -/
def start (h : Heap) : Process := (h, ⟨[], []⟩)

/-- Records the present moment. -/
def record (s : Process) : Process := (s.1, { s.2 with past := s.2.past ++ [⟨s.1, s.2.live⟩] })

/-- Enters a block. -/
def enter (s : Process) (b : Block) : Process := (s.1, { s.2 with live := s.2.live ++ [b] })

/-- Strikes block number `i` out. -/
def strike (s : Process) (i : Nat) : Process := (s.1, { s.2 with live := s.2.live.eraseIdx i })

end Process

/-- The heap and the ledger of a call. -/
def Call.process (c : Call Ledger) : Process := (c.heap, c.rest)

mutual

/-- An operation. -/
inductive Op where
  /-- Allocates a number of bytes. -/
  | allocate (bytes : Nat) (maps : List Answer) (grown : List (List Op))
  /-- Gives back block number `i` of those in use as one of a number of bytes. -/
  | deallocate (i bytes : Nat)

/-- How the operating system answers a request for a mapping. -/
inductive Answer where
  /-- What others do in the meantime, and whether the request is turned down. -/
  | mk (meanwhile : List Op) (refuse : Bool)

end

/-- Enters the block with which an allocation has ended. -/
def Process.settle (src : Source) (bytes : Nat) (r : Except Failure Nat × Call Ledger) : Process :=
  match r.1 with
  | .ok x => r.2.process.enter ⟨src.poolOf bytes, x, bytes⟩
  | .error _ => r.2.process

/-- Gives back block number `i`, if there is one and the byte count is allowed for it. -/
def Process.giveBack (src : Source) (s : Process) (i bytes : Nat) : Process :=
  match s.2.live[i]? with
  | none => s
  | some b =>
    if src.accepts b.bytes bytes then
      match src.deallocate (Call.alone s.1 s.2) b.address bytes with
      | (.ok (), c) => c.process.strike i
      | (.error _, c) => c.process
    else s

mutual

/-- Carries out an operation. -/
def Op.run (src : Source) : Op → Process → Process
  | .allocate bytes maps grown, s =>
    (Process.settle src bytes (src.allocate ⟨s.1, s.2, decisions src maps, interludes src grown, #[]⟩ bytes)).record
  | .deallocate i bytes, s => (s.giveBack src i bytes).record

/-- Carries out operations one after the other. -/
def runAll (src : Source) : List Op → Process → Process
  | [], s => s
  | op :: ops, s => runAll src ops (op.run src s)

/-- The decision of an operating system that answers in a given way. -/
def Answer.decision (src : Source) : Answer → Decision Ledger
  | .mk meanwhile refuse => ⟨fun s => runAll src meanwhile (Process.record s), refuse⟩

/-- The decisions of an operating system that answers in given ways. -/
def decisions (src : Source) : List Answer → List (Decision Ledger)
  | [] => []
  | a :: as => a.decision src :: decisions src as

/-- The interludes in which lists of operations are carried out. -/
def interludes (src : Source) : List (List Op) → List (Interlude Ledger)
  | [] => []
  | ops :: rest => (fun s => runAll src ops (Process.record s)) :: interludes src rest

end

end BlockHeap
