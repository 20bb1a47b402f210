import Retrace.Json.Skip
import Retrace.Proofs.Json.Lexing

/-!
# Skipping values

A value of any kind is skipped up to its end, whatever follows (`skip_tokens`). Inside a list or a
record that is skipped, the tokens of each element or member lead from the state in which it may
begin to the one in which it has ended (`run_elementTokens`, `run_memberTokens`).
-/

namespace Retrace.Json

namespace SkipState

/-- Nothing is done before a value has begun. -/
theorem isDone_value (enclosing : List Enclosing) : isDone ⟨enclosing, .value⟩ = false := by
  cases enclosing <;> rfl

/-- A token leads from one state to another, as long as skipping is not done. -/
theorem run_cons {state after : SkipState} {token : Token} (hdone : state.isDone = false)
    (hstep : state.step token = .ok after) (rest : List Token) :
    state.run (token :: rest) = after.run rest := by
  rw [run, hdone, if_neg Bool.false_ne_true, hstep]
  rfl

/-- The first element of a list begins as any other does. -/
theorem run_first_list (element : Tree) (elements : List Tree) (enclosing : List Enclosing)
    (rest : List Token) :
    run ⟨.list :: enclosing, .first⟩ (Tree.elementTokens (element :: elements) ++ rest) =
      run ⟨.list :: enclosing, .value⟩ (Tree.elementTokens (element :: elements) ++ rest) := by
  have hfirst (behind : List Token) : run ⟨.list :: enclosing, .first⟩ (element.tokens ++ behind) =
      run ⟨.list :: enclosing, .value⟩ (element.tokens ++ behind) := by
    cases element <;> rfl
  cases elements with
  | nil => exact hfirst rest
  | cons =>
    rw [Tree.elementTokens, List.append_assoc]
    exact hfirst _

/-- The first member of a record begins as any other does. -/
theorem run_first_record (member : Option String × Tree) (members : List (Option String × Tree))
    (enclosing : List Enclosing) (rest : List Token) :
    run ⟨.record :: enclosing, .first⟩ (Tree.memberTokens (member :: members) ++ rest) =
      run ⟨.record :: enclosing, .name⟩ (Tree.memberTokens (member :: members) ++ rest) := by
  cases members <;> rfl

mutual

/-- The tokens of a value lead from its beginning to its end. -/
theorem run_tokens : ∀ (tree : Tree) (enclosing : List Enclosing) (rest : List Token),
    run ⟨enclosing, .value⟩ (tree.tokens ++ rest) = run ⟨enclosing, .after⟩ rest
  | .null, enclosing, rest => run_cons (isDone_value enclosing) rfl rest
  | .bool _, enclosing, rest => run_cons (isDone_value enclosing) rfl rest
  | .number _, enclosing, rest => run_cons (isDone_value enclosing) rfl rest
  | .text _, enclosing, rest => run_cons (isDone_value enclosing) rfl rest
  | .list [], enclosing, rest =>
    (run_cons (isDone_value enclosing) rfl (.closeList :: rest)).trans rfl
  | .list (element :: elements), enclosing, rest => by
    rw [Tree.tokens_list_append, run_cons (isDone_value enclosing) rfl, run_first_list,
      run_elementTokens (element :: elements) (List.cons_ne_nil _ _)]
    rfl
  | .record [], enclosing, rest =>
    (run_cons (isDone_value enclosing) rfl (.closeRecord :: rest)).trans rfl
  | .record (member :: members), enclosing, rest => by
    rw [Tree.tokens_record_append, run_cons (isDone_value enclosing) rfl, run_first_record,
      run_memberTokens (member :: members) (List.cons_ne_nil _ _)]
    rfl

/-- The tokens of elements lead from the beginning of the first to the end of the last. -/
theorem run_elementTokens : ∀ (elements : List Tree), elements ≠ [] →
    ∀ (enclosing : List Enclosing) (rest : List Token),
      run ⟨.list :: enclosing, .value⟩ (Tree.elementTokens elements ++ rest) =
        run ⟨.list :: enclosing, .after⟩ rest
  | [], hne, _, _ => absurd rfl hne
  | [element], _, enclosing, rest => run_tokens element (.list :: enclosing) rest
  | element :: next :: elements, _, enclosing, rest => by
    rw [Tree.elementTokens, List.append_assoc, run_tokens element]
    exact run_elementTokens (next :: elements) (List.cons_ne_nil _ _) enclosing rest

/-- The tokens of members lead from the first name to the end of the last value. -/
theorem run_memberTokens : ∀ (members : List (Option String × Tree)), members ≠ [] →
    ∀ (enclosing : List Enclosing) (rest : List Token),
      run ⟨.record :: enclosing, .name⟩ (Tree.memberTokens members ++ rest) =
        run ⟨.record :: enclosing, .after⟩ rest
  | [], hne, _, _ => absurd rfl hne
  | [(_, value)], _, enclosing, rest => run_tokens value (.record :: enclosing) rest
  | (_, value) :: next :: members, _, enclosing, rest => by
    rw [Tree.memberTokens, List.cons_append, List.cons_append, List.append_assoc]
    show run ⟨.record :: enclosing, .value⟩ _ = _
    rw [run_tokens value]
    exact run_memberTokens (next :: members) (List.cons_ne_nil _ _) enclosing rest

end

end SkipState

/-- A value is skipped up to its end. -/
theorem skip_tokens (tree : Tree) (rest : List Token) : skip (tree.tokens ++ rest) = .ok rest := by
  have hdone : SkipState.run ⟨[], .after⟩ rest = .ok rest := by
    cases rest <;> rfl
  exact (SkipState.run_tokens tree [] rest).trans hdone

end Retrace.Json
