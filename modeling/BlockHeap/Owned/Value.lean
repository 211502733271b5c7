import BlockHeap.Text
import BlockHeap.Typed.Element

/-!
# Values in boxes

A `Kind` is a type of values that a box can hold: how many bytes they take, how they are aligned, how they are read from
something written, shown, and described. Any size and alignment is that of some kind (`data`). Values of kind `tracked`
leave their name behind when they are destroyed; a value of kind `box k` is itself a box, of a value of kind `k`; and a
value of kind `pair` is two values, each of which may have boxes of its own.
-/

namespace BlockHeap

/-- What a value says. -/
inductive Contents where
  | unit
  /-- A number, or the same byte all over. -/
  | number (n : Nat)
  | triple (a b c : Nat)
  | text (s : String)
  /-- What the two values of a pair say. -/
  | pair (first second : Contents)
  deriving DecidableEq, Repr

/-- The ways in which something written can be read: digits, for instance, as a number or as a text. -/
structure Reading where
  number : Option Nat
  triple : Option (Nat × Nat × Nat)
  text : Option String
  deriving DecidableEq, Repr

/-- A value as it lies in memory. -/
inductive Value where
  | plain (contents : Contents)
  /-- A box: the address of its value. -/
  | pointer (address : Nat)
  /-- Two values side by side. -/
  | pair (first second : Value)
  deriving DecidableEq, Repr

/-- How a value is shown. -/
inductive Shown where
  | number (n : Nat)
  | text (s : String)
  | list (items : List Shown)
  deriving Repr

/-- A type of values. -/
inductive Kind where
  /-- The type with one value, which takes no room. -/
  | unit
  /-- Numbers of a given number of bytes. -/
  | int (bytes : Nat)
  /-- Three numbers of four bytes. -/
  | triple
  /-- One byte repeated over 5000 bytes. -/
  | buffer
  /-- One byte repeated over a mebibyte. -/
  | mebibyte
  | text
  /-- Texts that leave their name behind when they are destroyed. -/
  | tracked
  /-- A byte aligned to a page, which takes the whole page. -/
  | page
  /-- A byte aligned to a mebibyte. -/
  | huge
  /-- Texts that take room of any size and alignment. Without room there is nothing to tell them apart. -/
  | data (element : Element)
  /-- Two values side by side, which take room of any size and alignment. -/
  | pair (element : Element) (first second : Kind)
  | box (inner : Kind)
  deriving DecidableEq, Repr

/-- How what a value says is shown. -/
def Contents.shown : Contents → Shown
  | .unit => .text "unit"
  | .number n => .number n
  | .triple a b c => .list [.number a, .number b, .number c]
  | .text s => .text s
  | .pair first second => .list [first.shown, second.shown]

/-- The description of what a value says. -/
def Contents.describe : Contents → String
  | .unit => "()"
  | .number n => toString n
  | .triple a b c => Text.list [toString a, toString b, toString c]
  | .text s => Text.quoted s
  | .pair first second => Text.wrapped "" [first.describe, second.describe]

namespace Kind

/-- The size and alignment of a kind. -/
def element : Kind → Element
  | .unit => ⟨0, 1⟩
  | .int n => ⟨n, n⟩
  | .triple => ⟨12, 4⟩
  | .buffer => ⟨5000, 1⟩
  | .mebibyte => ⟨1048576, 1⟩
  | .text | .tracked => ⟨24, 8⟩
  | .page => ⟨4096, 4096⟩
  | .huge => ⟨1048576, 1048576⟩
  | .data element => element
  | .pair element _ _ => element
  | .box _ => ⟨8, 8⟩

/-- The value that needs no room. -/
def only : Kind → Value
  | .pair _ first second => .pair first.only second.only
  | _ => .plain .unit

/-- A number below a bound. -/
def numberBelow (bound : Nat) (n : Option Nat) : Option Contents :=
  n.bind fun n => if n < bound then some (.number n) else none

/-- What a value of a kind says when something written is read as one. -/
def read? : Kind → Reading → Option Contents
  | .unit, _ => some .unit
  | .int size, r => numberBelow (1 <<< (8 * size)) r.number
  | .triple, r =>
    r.triple.bind fun (a, b, c) =>
      if a < UInt32.size ∧ b < UInt32.size ∧ c < UInt32.size then some (.triple a b c) else none
  | .buffer, r | .mebibyte, r | .page, r | .huge, r => numberBelow 256 r.number
  | .text, r | .tracked, r => r.text.map .text
  | .data element, r => if element.size = 0 then some .unit else r.text.map .text
  | .pair _ first second, r => do return .pair (← first.read? r) (← second.read? r)
  | .box inner, r => inner.read? r

/-- How what a value of a kind says is shown. A repeated byte is shown at the ends, and for a `buffer` in the middle
too. -/
def shown : Kind → Contents → Shown
  | .box inner, c => .list [inner.shown c]
  | .buffer, .number n => .list [.number n, .number n, .number n]
  | .mebibyte, .number n => .list [.number n, .number n]
  | .pair _ first second, .pair c d => .list [first.shown c, second.shown d]
  | _, c => c.shown

/-- The description of a value. -/
def describe : Kind → Contents → String
  | .box inner, c => inner.describe c
  | .tracked, .text s => Text.wrapped "Tracked" [Text.quoted s]
  | .page, .number n => Text.wrapped "Page" [toString n]
  | .huge, .number n => Text.wrapped "Huge" [toString n]
  | .buffer, .number n => Text.list (List.replicate 5000 (toString n))
  | .mebibyte, .number n => Text.list (List.replicate 1048576 (toString n))
  | .pair _ first second, .pair c d => Text.wrapped "" [first.describe c, second.describe d]
  | _, c => c.describe

/-- The name that a value leaves behind when it is destroyed. -/
def farewell? : Kind → Contents → Option String
  | .tracked, .text name => some name
  | _, _ => none

end Kind

end BlockHeap
