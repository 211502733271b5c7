import BlockHeap.Text.Printable

/-!
# Descriptions of values

The notation in which values describe themselves: a record is its name and its fields in braces, a quoted text has its
quotation marks, backslashes and unprintable characters escaped. No address is shown: `Text.address` stands for all.
-/

namespace BlockHeap.Text

/-- Stands for an address. -/
def address : String := "PTR"

/-- A record with named fields. -/
def record (name : String) (fields : List (String × String)) : String :=
  name ++ " \x7b " ++ String.intercalate ", " (fields.map fun f => f.1 ++ ": " ++ f.2) ++ " \x7d"

/-- A list in brackets. -/
def list (items : List String) : String :=
  "[" ++ String.intercalate ", " items ++ "]"

/-- A value in parentheses behind the name of its wrapper. -/
def wrapped (name : String) (items : List String) : String :=
  name ++ "(" ++ String.intercalate ", " items ++ ")"

/-- A value that may be missing. -/
def optional : Option String → String
  | none => "None"
  | some s => wrapped "Some" [s]

/-- A character by its number. -/
def escapeNumber (c : Char) : String :=
  "\\u\x7b" ++ String.ofList (Nat.toDigits 16 c.toNat) ++ "\x7d"

/-- One character of a quoted text. -/
def escape (c : Char) : String :=
  if c = '"' then "\\\""
  else if c = '\\' then "\\\\"
  else if c = '\n' then "\\n"
  else if c = '\t' then "\\t"
  else if c = '\r' then "\\r"
  else if c = '\x00' then "\\0"
  else if isPrintable c then c.toString
  else escapeNumber c

/-- A text in quotation marks. -/
def quoted (s : String) : String :=
  "\"" ++ String.join (s.toList.map escape) ++ "\""

end BlockHeap.Text
