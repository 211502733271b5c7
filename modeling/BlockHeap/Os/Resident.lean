import BlockHeap.Os.Mapping

/-!
# Values with a mapping of their own

A value that lies in a mapping made for it alone: the arenas of pools do, since the allocator cannot serve itself.
Destroying such a value gives its mapping back.
-/

namespace BlockHeap

/-- A value and the mapping in which it lies. -/
structure Resident (α : Type) where
  value : α
  mapping : Mapping

end BlockHeap
