import Retrace.Toml.Value

/-!
# Building tables

A document adds to its root table one statement after the other. A key names a value once. A header
may state a table that is only implied so far; it may not state a table again, nor one that dotted
keys build up. Dotted keys go through tables that no header has stated and end in a table that
dotted keys made.
-/

namespace Retrace.Toml

/-- Changes the value under a key, or adds one. -/
def alter (key : String) (f : Option Value → Option Value) : Entries → Option Entries
  | [] => (f none).map fun value => [(key, value)]
  | (name, value) :: entries =>
    if name = key then (f (some value)).map fun value => (name, value) :: entries
    else (alter key f entries).map ((name, value) :: ·)

/-- Changes the table at the end of a path from a table, making the tables on the way that are not
there: implied ones for a header, dotted ones for a dotted key. The last of several tables under one
name stands for all of them. -/
def within (dotted : Bool) : List String → (Making → Entries → Option Entries) → Making → Entries →
    Option Entries
  | [], f, making, entries => f making entries
  | key :: path, f, _, entries =>
    alter key (fun
      | none =>
        let making := if dotted then .dotted else .implied
        (within dotted path f making []).map (.table making)
      | some (.table making inner) =>
        if making = .inline ∨ (dotted ∧ making = .stated) then none
        else (within dotted path f making inner).map (.table making)
      | some (.tables before last) =>
        (within dotted path f .stated last).map (.tables before)
      | some _ => none) entries

/-- Adds a value under a key that is not taken. -/
def add (key : String) (value : Value) : Entries → Option Entries :=
  alter key fun
    | none => some value
    | some _ => none

/-- Adds a value under a dotted key to a table; `path` are the parts before the last one. -/
def addDotted (path : List String) (key : String) (value : Value) (making : Making)
    (entries : Entries) : Option Entries :=
  within true path (fun making entries =>
    if path ≠ [] ∧ making ≠ .dotted then none else add key value entries) making entries

/-- A statement of a document. Paths are split before their last part. -/
inductive Statement where
  /-- A header of a table. -/
  | header (path : List String) (key : String)
  /-- A header of one more table of several under one name. -/
  | another (path : List String) (key : String)
  /-- A key and its value. -/
  | entry (path : List String) (key : String) (value : Value)

/-- What the statements so far have built: the root table and the path of the last header. -/
structure Tree where
  /-- The root table. -/
  root : Entries
  /-- The path of the table to which entries are added. -/
  current : List String

namespace Tree

/-- What no statement has built. -/
def empty : Tree := ⟨[], []⟩

/-- Adds a statement. -/
def state (tree : Tree) : Statement → Option Tree
  | .header path key => do
    let root ← within false path (fun _ => alter key fun
      | none => some (.table .stated [])
      | some (.table .implied entries) => some (.table .stated entries)
      | some _ => none) .stated tree.root
    return ⟨root, path ++ [key]⟩
  | .another path key => do
    let root ← within false path (fun _ => alter key fun
      | none => some (.tables [] [])
      | some (.tables before last) => some (.tables (before ++ [last]) [])
      | some _ => none) .stated tree.root
    return ⟨root, path ++ [key]⟩
  | .entry path key value => do
    let root ← within false tree.current (addDotted path key value) .stated tree.root
    return { tree with root }

end Tree

/-- The root table of a document's statements. -/
def build (statements : List Statement) : Option Entries :=
  (statements.foldlM Tree.state Tree.empty).map Tree.root

end Retrace.Toml
