import BlockHeap.Arena.Basic
import BlockHeap.Os.Resident
import BlockHeap.Pool.Settings

/-!
# Pools

A pool serves blocks of one size from up to `Pool.capacity` arenas, one in each slot. A new arena is made only when no
existing one has a block left, and it goes like this: the next slot is claimed by counting it (`claimSlot`), the arena
is made, and then either the arena is put into its slot (`publish`) or the slot is given back (`giveBack`). While the
arena is being made other operations may use the pool, and claim further slots; a slot below a claimed one cannot be
given back and stays empty for ever.

The functions here are the single steps; `Call.round` puts them together.
-/

namespace BlockHeap

/-- Up to `maxArenas` arenas with blocks of one size. -/
structure Pool where
  /-- Who may use the pool. -/
  policy : Policy
  blockSize : Nat
  maxArenas : Nat
  /-- There is a slot for each arena. -/
  maxArenas_le : maxArenas ≤ Pool.capacity
  slots : Vector (Option (Resident Arena)) Pool.capacity
  /-- The number of slots claimed. -/
  count : Nat
  /-- The slot of the arena that served the last allocation. -/
  current : Nat

namespace Pool

/-- A pool without arenas. -/
def create (policy : Policy) (blockSize maxArenas : Nat) : Except Fault Pool :=
  if h : 1 ≤ maxArenas ∧ maxArenas ≤ capacity then
    .ok ⟨policy, blockSize, maxArenas, h.2, Vector.replicate _ none, 0, 0⟩
  else .error .limitOutOfRange

/-- The pool that has nothing and may have nothing. -/
def vacant : Pool := ⟨.shared, 0, 0, Nat.zero_le _, Vector.replicate _ none, 0, 0⟩

/-- The pool with given settings. It may have as many arenas as any pool if nothing else was said. -/
def Settings.build (s : Settings) (policy : Policy) : Except Fault Pool :=
  match s.blockSize with
  | none => .error .noBlockSize
  | some size => Pool.create policy size (s.maxArenas.getD capacity)

/-- The pool for blocks of a given size that may have as many arenas as any pool. -/
def ofBlockSize (policy : Policy) (size : Nat) : Except Fault Pool :=
  match Settings.empty.setBlockSize size with
  | (.error f, _) => .error f
  | (.ok (), s) => s.build policy

/-- What is in a slot. -/
def slot? (p : Pool) (i : Nat) : Option (Resident Arena) :=
  if h : i < capacity then p.slots[i] else none

/-- The arena in a slot. -/
def arena? (p : Pool) (i : Nat) : Option Arena := (p.slot? i).map (·.value)

/-- The arenas with their data, in order of slots. -/
def published (p : Pool) : List (Resident Arena) := p.slots.toList.filterMap id

/-! ## Blocks -/

/-- Takes out what is in a slot. What is taken out has no other owner, so it is changed in place. -/
@[noinline] def takeSlot (p : Pool) (i : Nat) : Option (Resident Arena) × Pool :=
  if h : i < capacity then (p.slots[i], { p with slots := p.slots.set i none }) else (none, p)

/-- Puts something into a slot. -/
def putSlot (p : Pool) (i : Nat) (slot : Option (Resident Arena)) : Pool :=
  { p with slots := p.slots.setIfInBounds i slot }

/-- Does something with the arena in a slot; `none` is the answer where there is no arena. -/
@[specialize] def onArena {α : Type} (p : Pool) (i : Nat) (f : Arena → α × Arena) : Option α × Pool :=
  match p.takeSlot i with
  | (none, p) => (none, p)
  | (some resident, p) =>
    let r := f resident.value
    (some r.1, p.putSlot i (some { resident with value := r.2 }))

/-- Takes a block from the arena in a slot, if there is an arena and it has a block. -/
def takeFrom (p : Pool) (i : Nat) : Except Fault (Option Nat) × Pool :=
  match p.onArena i Arena.allocate with
  | (none, p) => (.ok none, p)
  | (some r, p) => (r, p)

/-- Takes a block from the first of `n` slots from `i` on that can give one, leaving out the current slot. The slot
that gives it becomes the current one. -/
def takeFromOthers (p : Pool) : (i n : Nat) → Except Fault (Option Nat) × Pool
  | _, 0 => (.ok none, p)
  | i, n + 1 =>
    if i = p.current then takeFromOthers p (i + 1) n
    else
      match p.takeFrom i with
      | (.ok none, p) => takeFromOthers p (i + 1) n
      | (.ok (some a), p) => (.ok (some a), { p with current := i })
      | (.error f, p) => (.error f, p)

/-- Takes a block from an existing arena: the current one, or else the first of the slots below `n` that has one. -/
def takeExisting (p : Pool) (n : Nat) : Except Fault (Option Nat) × Pool :=
  match p.takeFrom p.current with
  | (.ok none, p) => p.takeFromOthers 0 n
  | r => r

/-- The first of `n` slots from `i` on whose arena owns an address. -/
def ownerFrom (p : Pool) (address : Nat) : (i n : Nat) → Option Nat
  | _, 0 => none
  | i, n + 1 =>
    match p.slot? i with
    | none => ownerFrom p address (i + 1) n
    | some resident => if resident.value.owns address then some i else ownerFrom p address (i + 1) n

/-- The slot of the arena that owns an address. -/
def owner? (p : Pool) (address : Nat) : Option Nat := p.ownerFrom address 0 (min p.count capacity)

/-- Whether an arena of the pool owns an address. -/
def owns (p : Pool) (address : Nat) : Bool := (p.owner? address).isSome

/-- The slot and the number of the block in which an address lies. -/
def locate? (p : Pool) (address : Nat) : Option (Nat × Nat) := do
  let i ← p.owner? address
  let a ← p.arena? i
  return (i, a.blockIndex address)

/-- Takes back the block that starts at an address. -/
def deallocate (p : Pool) (address : Nat) : Except Fault Unit × Pool :=
  match p.owner? address with
  | none => (.error .foreignToPool, p)
  | some i =>
    match p.onArena i (·.deallocate address) with
    | (none, p) => (.error .foreignToPool, p)
    | (some r, p) => (r, p)

/-! ## Slots -/

/-- Claims slot `n`, provided that it is still the next one. -/
def claimSlot (p : Pool) (n : Nat) : Bool × Pool :=
  if p.count = n then (true, { p with count := n + 1 }) else (false, p)

/-- Puts an arena into its slot, and makes it the current one. -/
def publish (p : Pool) (i : Nat) (resident : Resident Arena) : Pool :=
  { p.putSlot i (some resident) with current := i }

/-- Gives a slot back, provided that it is still the last one. -/
def giveBack (p : Pool) (i : Nat) : Bool × Pool :=
  if p.count = i + 1 then (true, { p with count := i }) else (false, p)

/-- The description of a pool. -/
def describe (p : Pool) : String :=
  Text.record "ArenaPool" [("policy", Text.quoted p.policy.name), ("block_size", toString p.blockSize),
    ("num_arenas", toString p.count), ("max_arenas", toString p.maxArenas)]

end Pool

end BlockHeap
