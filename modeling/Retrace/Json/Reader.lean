import Retrace.Json.Token

/-!
# Readers of JSON documents

A reader takes the value it wants off the front of a list of tokens, or says why it cannot. What it
leaves is shorter than what it was given, which makes the loops over elements and members end.

A token of another kind than the wanted one is a mismatch when a value of that kind begins with it,
and malformed otherwise; a value that is not well formed is judged before its kind is.
-/

namespace Retrace.Json

/-- A reader of values of type `α`. -/
abbrev Reader (α : Type) := (tokens : List Token) → Except Fault (α × Rest tokens)

/-- What is wrong with a token where a value of another kind is wanted. -/
def Token.misfit : Token → Fault
  | .number .infinite | .text none => .malformed
  | .null | .bool _ | .number _ | .text (some _) | .openList | .openRecord => .mismatched
  | .broken _ wanted _ => wanted
  | .closeList | .closeRecord | .comma | .colon => .malformed

/-- What is wrong with the front of a list of tokens where a value of another kind is wanted. -/
def misfit : List Token → Fault
  | [] => .truncated
  | token :: _ => token.misfit

/-- What is wrong with the front of a list of tokens where punctuation is wanted. -/
def misplaced : List Token → Fault
  | [] => .truncated
  | _ :: _ => .malformed

namespace Reader

/-- Changes the value that a reader reads. -/
def map {α β : Type} (f : α → β) (reader : Reader α) : Reader β := fun tokens =>
  (reader tokens).map fun (value, rest) => (f value, rest)

/-- Refuses a value. -/
def filterMap {α β : Type} (f : α → Option β) (reader : Reader α) : Reader β := fun tokens => do
  let (value, rest) ← reader tokens
  match f value with
  | some value => return (value, rest)
  | none => throw .mismatched

/-- Reads a text. -/
def text : Reader String
  | .text (some content) :: rest => .ok (content, .tail _ rest)
  | tokens => .error (misfit tokens)

/-- Reads a natural number below `bound`. -/
def natural (bound : Nat) : Reader Nat
  | .number (.natural value) :: rest =>
    if value < bound then .ok (value, .tail _ rest) else .error .mismatched
  | tokens => .error (misfit tokens)

/-- Reads a natural number of 32 bits. -/
def word : Reader UInt32 := (natural UInt32.size).map UInt32.ofNat

/-- Reads a value that may be `null`. -/
def optional {α : Type} (reader : Reader α) : Reader (Option α)
  | .null :: rest => .ok (none, .tail _ rest)
  | tokens => reader.map some tokens

/-- Reads the elements of a list from the first on, to the closing bracket. -/
def elements {α : Type} (reader : Reader α) (tokens : List Token) :
    Except Fault (List α × Rest tokens) :=
  match reader tokens with
  | .error fault => .error fault
  | .ok (value, ⟨left, shorter⟩) =>
    match left, shorter with
    | .closeList :: rest, shorter =>
      .ok ([value], ⟨rest, by simp only [List.length_cons] at shorter; omega⟩)
    | .comma :: rest, shorter =>
      have : rest.length < tokens.length := by simp only [List.length_cons] at shorter; omega
      match elements reader rest with
      | .error fault => .error fault
      | .ok (values, ⟨rest, _⟩) => .ok (value :: values, ⟨rest, by omega⟩)
    | left, _ => .error (misplaced left)
termination_by tokens.length

/-- Reads a list. -/
def list {α : Type} (reader : Reader α) : Reader (List α)
  | .openList :: .closeList :: rest => .ok ([], .behind _ (.tail _ rest))
  | .openList :: tokens =>
    (elements reader tokens).map fun (values, rest) => (values, rest.behind _)
  | tokens => .error (misfit tokens)

end Reader

/-- Reads a whole document, after which no further token follows. -/
def read {α : Type} (reader : Reader α) (document : List UInt8) : Except Fault α :=
  match reader (tokens document) with
  | .error fault => .error fault
  | .ok (value, rest) => if rest.val.isEmpty then .ok value else .error .malformed

end Retrace.Json
