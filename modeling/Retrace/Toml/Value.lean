/-!
# Values of TOML documents

A document is a table of named values. A table remembers how it came into being, because that
decides what may still be added to it: a header states a table once, dotted keys build one up, and
a table in braces is finished where it ends.
-/

namespace Retrace.Toml

/-- How a table came into being. -/
inductive Making where
  /-- It was written in braces. -/
  | inline
  /-- A header stated it. -/
  | stated
  /-- It stands on the way to a table that a header stated. -/
  | implied
  /-- It stands on the way to a value with a dotted key. -/
  | dotted
  deriving Repr, DecidableEq

/-- A value of a document. -/
inductive Value where
  /-- A text. -/
  | text (content : String)
  /-- A whole number of 64 bits. -/
  | integer (value : Int)
  /-- A value of which settings make no use: a truth value, a float, a date or a time. -/
  | unused
  /-- A list in brackets. -/
  | list (elements : List Value)
  /-- The tables that headers in double brackets have stated under one name, the last apart. -/
  | tables (before : List (List (String × Value))) (last : List (String × Value))
  /-- A table. -/
  | table (making : Making) (entries : List (String × Value))

/-- Named values. -/
abbrev Entries := List (String × Value)

namespace Value

/-- The elements of a list, however it is written. -/
def elements? : Value → Option (List Value)
  | .list elements => some elements
  | .tables before last => some ((before ++ [last]).map (.table .stated))
  | _ => none

/-- The entries of a table. -/
def entries? : Value → Option Entries
  | .table _ entries => some entries
  | _ => none

/-- Is the value a list or a table without content? -/
def isHollow (value : Value) : Bool :=
  value.elements?.any List.isEmpty || value.entries?.any List.isEmpty

end Value

end Retrace.Toml
