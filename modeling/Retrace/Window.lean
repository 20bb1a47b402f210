import Retrace.Plan

/-!
# Plans side by side

How plans are gone through with several of them on their way at the same time. Plans enter in order,
as long as there is room; of those on their way any one may be the next to have a question answered;
and results leave in order, so a plan that is done waits for those before it.
-/

namespace Retrace

/-- Where a list of plans stands. -/
structure Window (Ask : Type) (Reply : Ask → Type) (α : Type) where
  /-- The results that have left. -/
  results : List α
  /-- The plans on their way, with those that are done and have not left. -/
  active : List (Plan Ask Reply α)
  /-- The plans that have not entered. -/
  waiting : List (Plan Ask Reply α)

namespace Window

variable {Ask : Type} {Reply : Ask → Type} {α : Type}

/-- Before anything has happened. -/
def start (plans : List (Plan Ask Reply α)) : Window Ask Reply α := ⟨[], [], plans⟩

/-- When all results have left. -/
def finish (results : List α) : Window Ask Reply α := ⟨results, [], []⟩

/-- What may happen next, with at most `limit` plans on their way. -/
inductive Step (limit : Nat) (answer : (q : Ask) → Reply q) :
    Window Ask Reply α → Window Ask Reply α → Prop where
  /-- A plan enters. -/
  | enter {results active plan waiting} (room : active.length < limit) :
    Step limit answer ⟨results, active, plan :: waiting⟩ ⟨results, active ++ [plan], waiting⟩
  /-- The next question of a plan is answered. -/
  | reply {results before question next after waiting} :
    Step limit answer ⟨results, before ++ .ask question next :: after, waiting⟩
      ⟨results, before ++ next (answer question) :: after, waiting⟩
  /-- The first result leaves. -/
  | leave {results result active waiting} :
    Step limit answer ⟨results, .done result :: active, waiting⟩
      ⟨results ++ [result], active, waiting⟩

end Window

end Retrace
