import Retrace.Text.Quoted

/-!
# Values of JSON documents

The values that answers are made of, and their text: without spaces, the members of a record in the
order given, in a text only the quote, the backslash and the controls escaped.
-/

namespace Retrace.Json

/-- A value of a document. -/
inductive Value where
  /-- The absent value. -/
  | null
  /-- A truth value. -/
  | bool (value : Bool)
  /-- A natural number. -/
  | number (value : Nat)
  /-- A text. -/
  | text (content : String)
  /-- A list of values. -/
  | list (elements : List Value)
  /-- Named values. -/
  | record (members : List (String × Value))

namespace Value

/-- A value or `null`. -/
def ofOption {α : Type} (f : α → Value) : Option α → Value
  | none => .null
  | some a => f a

/-- A character inside a text. -/
def escapeChar (c : Char) : List Char :=
  if c = '"' then ['\\', '"']
  else if c = '\\' then ['\\', '\\']
  else if c = '\n' then ['\\', 'n']
  else if c = '\r' then ['\\', 'r']
  else if c = '\t' then ['\\', 't']
  else if c = '\x08' then ['\\', 'b']
  else if c = '\x0c' then ['\\', 'f']
  else if c < ' ' then
    ['\\', 'u', '0', '0', Nat.digitChar (c.toNat / 16), Nat.digitChar (c.toNat % 16)]
  else [c]

/-- A text between quotes. -/
def printText (content : String) : List Char :=
  '"' :: content.toList.flatMap escapeChar ++ ['"']

mutual

/-- The text of a value. -/
def print : Value → List Char
  | .null => "null".toList
  | .bool true => "true".toList
  | .bool false => "false".toList
  | .number n => Nat.toDigits 10 n
  | .text content => printText content
  | .list elements => '[' :: printElements elements ++ [']']
  | .record members => '\x7b' :: printMembers members ++ ['\x7d']

/-- The texts of the elements of a list, with commas between them. -/
def printElements : List Value → List Char
  | [] => []
  | [value] => print value
  | value :: next :: values => print value ++ ',' :: printElements (next :: values)

/-- The texts of the members of a record, with commas between them. -/
def printMembers : List (String × Value) → List Char
  | [] => []
  | [(name, value)] => printText name ++ ':' :: print value
  | (name, value) :: next :: members =>
    printText name ++ ':' :: print value ++ ',' :: printMembers (next :: members)

end

end Value

end Retrace.Json
