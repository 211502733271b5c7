import BlockHeap.Os.Mapping
import BlockHeap.Owned.Value

/-!
# What lies in memory

The contents of memory, as far as somebody reads them again: values in boxes, and the handles behind oversized blocks.
Everything else reads as zero. An object takes a run of addresses, and writing one destroys whatever it overlaps.
-/

namespace BlockHeap

/-- Something that lies in memory. -/
inductive Object where
  /-- The handle of the mapping in which it lies. -/
  | handle (mapping : Mapping)
  | value (v : Value)
  deriving DecidableEq, Repr

/-- An object and the addresses that it takes. -/
structure Placed where
  start : Nat
  len : Nat
  object : Object
  deriving DecidableEq, Repr

/-- Whether an object shares an address with `len` bytes from `start` on. -/
def Placed.meets (p : Placed) (start len : Nat) : Bool :=
  p.start < start + len && start < p.start + p.len

/-- The contents of memory. -/
structure Memory where
  objects : List Placed

namespace Memory

/-- Memory full of zeros. -/
def empty : Memory := ⟨[]⟩

/-- Whether `len` bytes from `start` on are zero. -/
def isZero (m : Memory) (start len : Nat) : Bool := m.objects.all fun p => !p.meets start len

/-- Destroys what lies in `len` bytes from `start` on. -/
def erase (m : Memory) (start len : Nat) : Memory := ⟨m.objects.filter fun p => !p.meets start len⟩

/-- Puts an object into `len` bytes from `start` on. -/
def write (m : Memory) (start len : Nat) (object : Object) : Memory :=
  ⟨⟨start, len, object⟩ :: (m.erase start len).objects⟩

/-- The object that starts at an address. -/
def read? (m : Memory) (start : Nat) : Option Object :=
  (m.objects.find? (·.start == start)).map (·.object)

end Memory

end BlockHeap
