import Retrace.Json.Token

/-!
# Skipping a value

A value that no reader wants is skipped, whatever its nesting. Its tokens must be in order; what
numbers and texts stand for does not matter. The main statement is `skip_length_lt`.
-/

namespace Retrace.Json

/-- The kind of an enclosing value that has not been closed. -/
inductive Enclosing where
  /-- A list. -/
  | list
  /-- A record. -/
  | record

/-- What may come next while a value is skipped. -/
inductive Phase where
  /-- A value. -/
  | value
  /-- The first element or member of the innermost enclosing value, or its end. -/
  | first
  /-- The end of the innermost enclosing value, or a comma. -/
  | after
  /-- A member's name. -/
  | name
  /-- The colon after a member's name. -/
  | colon

/-- Where skipping stands: the values that enclose the next token, innermost first, and what may
come next. -/
structure SkipState where
  /-- The enclosing values. -/
  enclosing : List Enclosing
  /-- What may come next. -/
  phase : Phase

namespace SkipState

/-- Skips a token that begins a value. -/
def beginValue (state : SkipState) : Token → Except Fault SkipState
  | .null | .bool _ | .number _ | .text _ => .ok { state with phase := .after }
  | .openList => .ok ⟨.list :: state.enclosing, .first⟩
  | .openRecord => .ok ⟨.record :: state.enclosing, .first⟩
  | .broken _ _ skipped => .error skipped
  | _ => .error .malformed

/-- Skips a token that begins a member. -/
def beginMember (state : SkipState) : Token → Except Fault SkipState
  | .text _ => .ok { state with phase := .colon }
  | .broken true _ skipped => .error skipped
  | _ => .error .malformed

/-- Does the token end the innermost enclosing value? -/
def isClosedBy (state : SkipState) (token : Token) : Bool :=
  match state.enclosing, token with
  | .list :: _, .closeList | .record :: _, .closeRecord => true
  | _, _ => false

/-- The state after the innermost enclosing value has ended. -/
def close (state : SkipState) : SkipState := ⟨state.enclosing.tail, .after⟩

/-- Skips a token that begins an element or a member of the innermost enclosing value. -/
def beginItem (state : SkipState) (token : Token) : Except Fault SkipState :=
  match state.enclosing with
  | .record :: _ => state.beginMember token
  | _ => state.beginValue token

/-- Skips a token. -/
def step (state : SkipState) (token : Token) : Except Fault SkipState :=
  match state.phase with
  | .value => state.beginValue token
  | .name => state.beginMember token
  | .colon => if token = .colon then .ok { state with phase := .value } else .error .malformed
  | .first => if state.isClosedBy token then .ok state.close else state.beginItem token
  | .after =>
    if state.isClosedBy token then .ok state.close
    else if token = .comma then
      match state.enclosing with
      | .record :: _ => .ok { state with phase := .name }
      | _ => .ok { state with phase := .value }
    else .error .malformed

/-- Has a value ended that nothing encloses? -/
def isDone : SkipState → Bool
  | ⟨[], .after⟩ => true
  | _ => false

/-- Skips tokens until a value has ended that nothing encloses. -/
def run (state : SkipState) : List Token → Except Fault (List Token)
  | [] => if state.isDone then .ok [] else .error .truncated
  | token :: tokens =>
    if state.isDone then .ok (token :: tokens) else (state.step token).bind (run · tokens)

/-- Skipping does not lengthen a list of tokens. -/
theorem run_length_le {state : SkipState} {tokens rest : List Token}
    (h : state.run tokens = .ok rest) : rest.length ≤ tokens.length := by
  induction tokens generalizing state with
  | nil =>
    simp only [run] at h
    split at h <;> simp_all
  | cons token tokens ih =>
    simp only [run] at h
    split at h
    · simp_all
    · cases next : state.step token with
      | error fault => simp [next, Except.bind] at h
      | ok after =>
        rw [next] at h
        exact Nat.le_succ_of_le (ih h)

end SkipState

/-- Skips a value. -/
def skip (tokens : List Token) : Except Fault (List Token) :=
  SkipState.run ⟨[], .value⟩ tokens

/-- Skipping a value takes at least one token. -/
theorem skip_length_lt {tokens rest : List Token} (h : skip tokens = .ok rest) :
    rest.length < tokens.length := by
  cases tokens with
  | nil => simp [skip, SkipState.run, SkipState.isDone] at h
  | cons token tokens =>
    rw [List.length_cons, Nat.lt_succ_iff]
    simp only [skip, SkipState.run, SkipState.isDone, Bool.false_eq_true, if_false] at h
    cases next : SkipState.step ⟨[], .value⟩ token with
    | error fault => simp [next, Except.bind] at h
    | ok after =>
      rw [next] at h
      exact SkipState.run_length_le h

end Retrace.Json
