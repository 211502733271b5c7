import BlockHeap.Heap.Call

/-!
# Allocation from a pool

`Call.allocate` takes a block from a pool. It goes in rounds. A round first tries the existing arenas; if none has a
block it makes the pool grow by one arena, and takes a block from that. Others may have emptied the new arena by then,
in which case another round follows. Each such round has filled a slot, so there are at most as many as there are slots
left, and one more; `rounds` counts them down and ends as `Failure.stalled` if that should ever not suffice.

A growth makes two mappings, one for the region of the arena and one for its data. If either is refused, nothing stays
mapped and the slot is given back.
-/

namespace BlockHeap

/-- The number of bytes of an arena's own data. -/
def Arena.headerBytes : Nat := 640

namespace Call

variable {ε : Type}

/-- Maps the region of an arena. -/
def mapArena (c : Call ε) (policy : Policy) (blockSize : Nat) : Except Failure Arena × Call ε :=
  match Arena.Geometry.ofBlockSize blockSize with
  | .error f => (.error (.fault f), c)
  | .ok g =>
    match c.map Arena.regionBytes with
    | (.error e, c) => (.error (.error e), c)
    | (.ok region, c) =>
      match Arena.create policy g region with
      | .error f => (.error (.fault f), c.unmap region)
      | .ok arena => (.ok arena, c.log (.arenaMapped policy g.blockSize g.blockCount g.usable))

/-- Maps an arena and a place for its own data; if this is refused, the arena is unmapped again. -/
def houseArena (c : Call ε) (policy : Policy) (blockSize : Nat) : Except Failure (Resident Arena) × Call ε :=
  match c.mapArena policy blockSize with
  | (.error f, c) => (.error f, c)
  | (.ok arena, c) =>
    match c.house arena Arena.headerBytes with
    | (.error e, c) => (.error (.error e), c.unmap arena.region)
    | (.ok resident, c) => (.ok resident, c)

/-- Fills a claimed slot of pool `k` with a new arena, or gives the slot back. -/
def fillSlot (c : Call ε) (k slot : Nat) : Except Failure Unit × Call ε :=
  let policy := (c.heap.pool k).policy
  let blockSize := (c.heap.pool k).blockSize
  match c.houseArena policy blockSize with
  | (.ok resident, c) =>
    (.ok (), ((c.modifyPool k (·.publish slot resident)).log (.poolGrew policy blockSize slot)).announceGrowth)
  | (.error (.error e), c) =>
    let r := c.onPool k (·.giveBack slot)
    (.error (.error e), r.2.log (.growthFailed policy blockSize slot r.1))
  | (.error f, c) => (.error f, c)

/-- One round of an allocation from pool `k`: the block or the failure with which it ends, or that another round is
needed. -/
def round (c : Call ε) (k : Nat) : Option (Except Failure Nat) × Call ε :=
  let n := (c.heap.pool k).count
  match c.onPool k (·.takeExisting n) with
  | (.error f, c) => (some (.error (.fault f)), c)
  | (.ok (some a), c) => (some (.ok a), c)
  | (.ok none, c) =>
    let policy := (c.heap.pool k).policy
    let blockSize := (c.heap.pool k).blockSize
    if (c.heap.pool k).maxArenas ≤ n then
      (some (.error (.error (.poolExhausted blockSize n))), c.log (.poolExhausted policy blockSize n))
    else
      match c.onPool k (·.claimSlot n) with
      | (false, c) => (none, c)
      | (true, c) =>
        match c.fillSlot k n with
        | (.error f, c) => (some (.error f), c)
        | (.ok (), c) =>
          match c.onPool k (·.takeFrom n) with
          | (.error f, c) => (some (.error (.fault f)), c)
          | (.ok (some a), c) => (some (.ok a), c)
          | (.ok none, c) => (none, c)

/-- At most `fuel` rounds. -/
def rounds (c : Call ε) (k : Nat) : (fuel : Nat) → Except Failure Nat × Call ε
  | 0 => (.error .stalled, c)
  | fuel + 1 =>
    match c.round k with
    | (some r, c) => (r, c)
    | (none, c) => rounds c k fuel

/-- The largest number of rounds that an allocation from a pool can take. -/
def roundLimit (p : Pool) : Nat := p.maxArenas - p.count + 1

/-- Takes a block from pool `k`. -/
def allocate (c : Call ε) (k : Nat) : Except Failure Nat × Call ε :=
  c.rounds k (roundLimit (c.heap.pool k))

/-- Returns a block to pool `k`. -/
def deallocate (c : Call ε) (k address : Nat) : Except Fault Unit × Call ε :=
  c.onPool k (·.deallocate address)

end Call

end BlockHeap
