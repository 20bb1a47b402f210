import Retrace.Toml.Value

/-!
# Records from TOML values

A record is written as a table with some of the record's fields, or as a list of the first fields'
values in the order of their declaration, of which further elements are left alone. No other key is
allowed in a table.

A record is read into an initial value, in which each field that is met replaces its own part.
-/

namespace Retrace.Toml

/-- A declared field of a record of type `α`. -/
structure RecordField (α : Type) where
  /-- The key of the field in a table. -/
  name : String
  /-- Reads the field's value and says what it replaces. -/
  read : Value → Option (α → α)

/-- A field given by the reader of its value and the replacement of its part. -/
def RecordField.of {α β : Type} (name : String) (reader : Value → Option β) (set : β → α → α) :
    RecordField α :=
  ⟨name, fun value => (reader value).map set⟩

namespace Value

/-- Reads a text. -/
def text? : Value → Option String
  | .text content => some content
  | _ => none

/-- Reads a whole number from zero to below `bound`. -/
def natural? (bound : Nat) : Value → Option Nat
  | .integer value => if 0 ≤ value ∧ value < bound then some value.toNat else none
  | _ => none

/-- Reads a list. -/
def list? {α : Type} (reader : Value → Option α) (value : Value) : Option (List α) := do
  (← value.elements?).mapM reader

/-- Reads the entry of a table into a record. -/
def readEntry {α : Type} (fields : List (RecordField α)) (record : α) (entry : String × Value) :
    Option α := do
  let field ← fields.find? (·.name = entry.1)
  let set ← field.read entry.2
  return set record

/-- Reads a record. -/
def record? {α : Type} (fields : List (RecordField α)) (initial : α) (value : Value) : Option α :=
  match value.entries?, value.elements? with
  | some entries, _ => entries.foldlM (readEntry fields) initial
  | none, some elements =>
    (fields.zip elements).foldlM (fun record (field, element) => do
      let set ← field.read element
      return set record) initial
  | none, none => none

end Value

end Retrace.Toml
