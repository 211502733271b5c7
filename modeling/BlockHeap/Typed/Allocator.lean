import BlockHeap.Registry
import BlockHeap.Typed.Element

/-!
# Requests for elements

Memory for a number of elements of some type. An empty request is answered with a pointer to nothing, before anything
else is looked at; alignment beyond that of pages cannot be had.
-/

namespace BlockHeap

/-- The answer to a request for elements. -/
inductive Pointer where
  /-- Nothing was asked for: a pointer that is aligned, not null, and must not be followed. -/
  | dangling (address : Nat)
  | block (address : Nat)
  deriving DecidableEq, Repr

/-- Serves requests for elements of one type from a registry. -/
structure Allocator where
  registry : Registry
  element : Element
  deriving DecidableEq, Repr

namespace Allocator

variable {ε : Type}

/-- Allocates memory for `n` elements. -/
def allocate (a : Allocator) (c : Call ε) (n : Nat) : Except Failure Pointer × Call ε :=
  match a.element.bytes? n with
  | .error e => (.error (.error e), c)
  | .ok 0 => (.ok (.dangling a.element.align), c)
  | .ok bytes =>
    if pageSize < a.element.align then (.error (.error (.unsupportedAlignment a.element.align pageSize)), c)
    else
      let r := a.registry.allocate c bytes
      (r.1.map .block, r.2)

/-- Takes back memory for `n` elements. Null pointers are ignored, and so are requests that `allocate` never serves
with a block: empty ones and those of too many bytes. -/
def deallocate (a : Allocator) (c : Call ε) (address n : Nat) : Except Fault Unit × Call ε :=
  match a.element.bytes? n with
  | .error _ | .ok 0 => (.ok (), c)
  | .ok bytes => if address = 0 then (.ok (), c) else a.registry.deallocate c address bytes

/-- The same memory for elements of another type. -/
def rebind (a : Allocator) (element : Element) : Allocator := { a with element }

/-- Whether memory from one allocator can be returned to the other: element types do not matter for that. -/
def interchangeable (a b : Allocator) : Bool := a.registry == b.registry

/-- The description of an allocator. -/
def describe (a : Allocator) : String :=
  Text.record "Allocator" [("policy", Text.quoted a.registry.policy.name),
    ("element_size", toString a.element.size)]

end Allocator

end BlockHeap
