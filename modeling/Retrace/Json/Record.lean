import Retrace.Json.Reader
import Retrace.Json.Skip

/-!
# Readers of records

A record is written as an object, with its members in any order, or as a list of the members'
values in the order of their declaration. Members that are not declared are skipped in an object,
or refused where a record is closed; a declared member occurs at most once.

A record is read into an initial value, in which each member that is met replaces its own part.
-/

namespace Retrace.Json

/-- When a member may be missing. -/
inductive Presence where
  /-- It is always there. -/
  | required
  /-- It may be missing from an object, and has its place in a list. -/
  | nullable
  /-- It may be missing from an object and from the end of a list. -/
  | optional
  deriving DecidableEq

/-- A declared member of a record of type `α`. -/
structure Member (α : Type) where
  /-- The member's name in an object. -/
  name : String
  /-- When the member may be missing. -/
  presence : Presence
  /-- Reads the member's value and says what it replaces. -/
  read : Reader (α → α)

/-- A member given by the reader of its value and the replacement of its part. -/
def Member.of {α β : Type} (name : String) (presence : Presence) (reader : Reader β)
    (set : β → α → α) : Member α :=
  ⟨name, presence, reader.map set⟩

/-- What is known of a record: its declared members, and whether it is closed to others. -/
structure Shape (α : Type) where
  /-- The declared members, in the order of a list. -/
  members : List (Member α)
  /-- Are members refused that are not declared? -/
  closed : Bool := false

namespace Shape

variable {α : Type}

/-- Takes the colon off the front of a list of tokens. -/
def afterColon : (tokens : List Token) → Except Fault (Rest tokens)
  | .colon :: rest => .ok (.tail _ rest)
  | tokens => .error (misplaced tokens)

/-- Skips a value, with a proof that it takes a token. -/
def skipValue (tokens : List Token) : Except Fault (Rest tokens) :=
  match h : skip tokens with
  | .error fault => .error fault
  | .ok rest => .ok ⟨rest, skip_length_lt h⟩

/-- Takes a member's name off the front of a list of tokens. -/
def memberName : Reader String
  | .text (some name) :: rest => .ok (name, .tail _ rest)
  | .broken true wanted _ :: _ => .error wanted
  | tokens => .error (misplaced tokens)

/-- Reads what a member called `name` replaces. A repeated member, and in a closed record a member
that is not declared, is refused before its colon is looked at. -/
def memberValue (shape : Shape α) (seen : List String) (name : String) : Reader (α → α) :=
  fun tokens =>
    match shape.members.find? (·.name = name) with
    | none =>
      if shape.closed then .error .mismatched
      else do
        let left ← afterColon tokens
        let rest ← skipValue left.val
        return (id, left.further rest)
    | some member =>
      if seen.contains name then .error .mismatched
      else do
        let left ← afterColon tokens
        let (set, rest) ← member.read left.val
        return (set, left.further rest)

/-- Reads the members of an object from the first on, to the closing brace, into `record`; `seen`
are the names of the members before. Returns the record and the names met. -/
def readMembers (shape : Shape α) (record : α) (seen : List String) (tokens : List Token) :
    Except Fault ((α × List String) × Rest tokens) :=
  match memberName tokens with
  | .error fault => .error fault
  | .ok (name, ⟨afterName, _⟩) =>
    match shape.memberValue seen name afterName with
    | .error fault => .error fault
    | .ok (set, ⟨left, shorter⟩) =>
      match left, shorter with
      | .closeRecord :: rest, shorter =>
        .ok ((set record, name :: seen), ⟨rest, by simp only [List.length_cons] at shorter; omega⟩)
      | .comma :: rest, shorter =>
        have : rest.length < tokens.length := by simp only [List.length_cons] at shorter; omega
        match readMembers shape (set record) (name :: seen) rest with
        | .error fault => .error fault
        | .ok (result, ⟨rest, _⟩) => .ok (result, ⟨rest, by omega⟩)
      | left, _ => .error (misplaced left)
termination_by tokens.length

/-- Are all members that an object lacks allowed to be missing? -/
def isComplete (shape : Shape α) (seen : List String) : Bool :=
  shape.members.all fun member => seen.contains member.name || member.presence ≠ .required

/-- Reads a record written as an object, behind the opening brace. -/
def readObject (shape : Shape α) (record : α) : Reader α
  | .closeRecord :: rest =>
    if shape.isComplete [] then .ok (record, .tail _ rest) else .error .mismatched
  | tokens => do
    let ((record, seen), rest) ← shape.readMembers record [] tokens
    if shape.isComplete seen then return (record, rest) else throw .mismatched

/-- May all the members be missing from the end of a list? -/
def mayEnd (members : List (Member α)) : Bool :=
  members.all (·.presence = .optional)

/-- Reads the values of `members` from the first on, to the closing bracket, into `record`. -/
def readSlots (record : α) : (members : List (Member α)) → Reader α
  | [], tokens => .error (misplaced tokens)
  | member :: members, tokens =>
    match member.read tokens with
    | .error fault => .error fault
    | .ok (set, ⟨left, shorter⟩) =>
      match left, shorter with
      | .closeList :: rest, shorter =>
        if mayEnd members then
          .ok (set record, ⟨rest, by simp only [List.length_cons] at shorter; omega⟩)
        else .error .mismatched
      | .comma :: rest, shorter =>
        if members.isEmpty then .error .malformed
        else
          match readSlots (set record) members rest with
          | .error fault => .error fault
          | .ok (record, ⟨rest, _⟩) =>
            .ok (record, ⟨rest, by simp only [List.length_cons] at shorter; omega⟩)
      | left, _ => .error (misplaced left)

/-- Reads a record written as a list, behind the opening bracket. -/
def readList (shape : Shape α) (record : α) : Reader α
  | .closeList :: rest =>
    if mayEnd shape.members then .ok (record, .tail _ rest) else .error .mismatched
  | tokens => readSlots record shape.members tokens

/-- Reads a record in either form. -/
def reader (shape : Shape α) (initial : α) : Reader α
  | .openRecord :: tokens =>
    (shape.readObject initial tokens).map fun (record, rest) => (record, rest.behind _)
  | .openList :: tokens =>
    (shape.readList initial tokens).map fun (record, rest) => (record, rest.behind _)
  | tokens => .error (misfit tokens)

end Shape

end Retrace.Json
