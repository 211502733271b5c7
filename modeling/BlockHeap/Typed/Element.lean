import BlockHeap.AllocError
import BlockHeap.Size

/-!
# Element types

What the allocator has to know about a type of elements: their size and their alignment. `Element.bytes?` is the size
of an array of them, unless that is no size at all.
-/

namespace BlockHeap

/-- The size and the alignment of the elements of a type. -/
structure Element where
  /-- The number of bytes of an element, a multiple of the alignment. -/
  size : Nat
  /-- Addresses of elements are multiples of this power of two. -/
  align : Nat
  deriving DecidableEq, Repr

namespace Element

/-- The number of bytes of `n` elements. -/
def bytes? (e : Element) (n : Nat) : Except AllocError Nat :=
  match Size.mul? n e.size with
  | some bytes => .ok bytes
  | none => .error (.capacityOverflow n e.size)

end Element

end BlockHeap
