/-!
# Plans

A computation that asks the world questions before it is done: each question is a node of the plan,
and what follows depends on the reply. A plan is run by answering its questions, purely or in a
monad, and the questions it asks on the way can be listed.

The main statements say that running and listing go through a plan in the order in which its parts
are put together.
-/

namespace Retrace

/-- A computation that asks questions `q : Ask`, to which the replies have type `Reply q`. -/
inductive Plan (Ask : Type) (Reply : Ask → Type) (α : Type) where
  /-- The result. -/
  | done (result : α)
  /-- A question, and what follows each reply to it. -/
  | ask (question : Ask) (next : Reply question → Plan Ask Reply α)

namespace Plan

variable {Ask : Type} {Reply : Ask → Type} {α β : Type}

/-- Goes on with what follows the result. -/
protected def bind (plan : Plan Ask Reply α) (f : α → Plan Ask Reply β) : Plan Ask Reply β :=
  match plan with
  | .done result => f result
  | .ask question next => .ask question fun reply => (next reply).bind f

instance : Monad (Plan Ask Reply) where
  pure := .done
  bind := Plan.bind

/-- The plan that asks one question. -/
def question (q : Ask) : Plan Ask Reply (Reply q) :=
  .ask q .done

/-- The result when questions are answered by `answer`. -/
def run (answer : (q : Ask) → Reply q) : Plan Ask Reply α → α
  | .done result => result
  | .ask question next => (next (answer question)).run answer

/-- The questions that are asked when they are answered by `answer`, in order. -/
def asked (answer : (q : Ask) → Reply q) : Plan Ask Reply α → List Ask
  | .done _ => []
  | .ask question next => question :: (next (answer question)).asked answer

/-- Runs a plan in a monad that answers its questions. -/
def perform {m : Type → Type} [Monad m] (answer : (q : Ask) → m (Reply q)) :
    Plan Ask Reply α → m α
  | .done result => pure result
  | .ask question next => do
    let reply ← answer question
    (next reply).perform answer

/-- The results of a list of plans, one after the other. -/
def sequence : List (Plan Ask Reply α) → Plan Ask Reply (List α)
  | [] => .done []
  | plan :: plans => plan.bind fun result => (sequence plans).bind fun results =>
    .done (result :: results)

/-- The results of a list of plans that may have none. The first plan without a result is the end,
and there are none at all. -/
def collect : List (Plan Ask Reply (Option α)) → Plan Ask Reply (Option (List α))
  | [] => .done (some [])
  | plan :: plans => plan.bind fun result =>
    match result with
    | none => .done none
    | some result => (collect plans).bind fun results => .done (results.map (result :: ·))

@[simp]
theorem run_bind (answer : (q : Ask) → Reply q) (plan : Plan Ask Reply α)
    (f : α → Plan Ask Reply β) :
    (plan.bind f).run answer = (f (plan.run answer)).run answer := by
  induction plan with
  | done result => rfl
  | ask question next ih => exact ih (answer question)

@[simp]
theorem asked_bind (answer : (q : Ask) → Reply q) (plan : Plan Ask Reply α)
    (f : α → Plan Ask Reply β) :
    (plan.bind f).asked answer = plan.asked answer ++ (f (plan.run answer)).asked answer := by
  induction plan with
  | done result => rfl
  | ask question next ih => exact congrArg (question :: ·) (ih (answer question))

/-- What answers the questions of a plan may ask questions itself. -/
theorem run_perform {Ask' : Type} {Reply' : Ask' → Type} (answer : (q : Ask') → Reply' q)
    (ask : (q : Ask) → Plan Ask' Reply' (Reply q)) (plan : Plan Ask Reply α) :
    (plan.perform ask).run answer = plan.run fun q => (ask q).run answer := by
  induction plan with
  | done result => rfl
  | ask question next ih => exact (run_bind answer (ask question) _).trans (ih _)

/-- A plan depends on the answers to the questions that it asks, and on no others. -/
theorem run_congr {answer answer' : (q : Ask) → Reply q} (plan : Plan Ask Reply α)
    (h : ∀ q ∈ plan.asked answer, answer q = answer' q) :
    plan.run answer = plan.run answer' := by
  induction plan with
  | done result => rfl
  | ask question next ih =>
    have hfirst : answer question = answer' question := h question List.mem_cons_self
    have hrest := ih (answer question) fun q hq => h q (List.mem_cons_of_mem question hq)
    rw [run, run, hrest, hfirst]

/-- A list of plans has the results of its members. -/
theorem run_sequence (answer : (q : Ask) → Reply q) (plans : List (Plan Ask Reply α)) :
    (sequence plans).run answer = plans.map (·.run answer) := by
  induction plans with
  | nil => rfl
  | cons plan plans ih => simp [sequence, run, ih]

/-- A list of plans asks what its members ask, one after the other. -/
theorem asked_sequence (answer : (q : Ask) → Reply q) (plans : List (Plan Ask Reply α)) :
    (sequence plans).asked answer = plans.flatMap (·.asked answer) := by
  induction plans with
  | nil => rfl
  | cons plan plans ih => simp [sequence, asked, ih]

/-- Plans that may have no result have results if each of them has one. -/
theorem run_collect (answer : (q : Ask) → Reply q) (plans : List (Plan Ask Reply (Option α))) :
    (collect plans).run answer = plans.mapM (·.run answer) := by
  induction plans with
  | nil => rfl
  | cons plan plans ih =>
    rw [collect, run_bind, List.mapM_cons]
    cases plan.run answer with
    | none => rfl
    | some result =>
      show (((collect plans).bind _).run answer) = _
      rw [run_bind, ih]
      cases plans.mapM (·.run answer) <;> rfl

end Plan

end Retrace
