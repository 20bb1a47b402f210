import Mathlib.Algebra.GroupWithZero.Nat
import Mathlib.Logic.Relation
import Retrace.Window

/-!
# Plans side by side

Neither the order in which questions are answered nor the number of plans on their way has an
influence on the results. What all plans are going to give stays the same with every step
(`Step.outcome_eq`), and every step leaves less to be done (`Step.remaining_lt`). As long as there
is room for a plan something can always happen, so all ways of going through the plans come to an
end, and to the same one (`run_iff`). On the way, each result has been that of a plan which was done
and had not left (`exists_done_iff`).
-/

namespace Retrace.Window

open Relation (ReflTransGen)

variable {Ask : Type} {Reply : Ask → Type} {α : Type} {limit : Nat} {answer : (q : Ask) → Reply q}
  {window window' : Window Ask Reply α}

/-- The results that have left, followed by those that the other plans are going to give. -/
def outcome (answer : (q : Ask) → Reply q) (window : Window Ask Reply α) : List α :=
  window.results ++ window.active.map (·.run answer) ++ window.waiting.map (·.run answer)

/-- A step does not change what all plans are going to give. -/
theorem Step.outcome_eq (h : Step limit answer window window') :
    window.outcome answer = window'.outcome answer := by
  cases h with
  | enter room => simp [outcome]
  | reply => simp [outcome, Plan.run]
  | leave => simp [outcome, Plan.run]

/-- What all plans are going to give does not change. -/
theorem outcome_eq_of_run (h : ReflTransGen (Step limit answer) window window') :
    window.outcome answer = window'.outcome answer := by
  induction h with
  | refl => rfl
  | tail _ step ih => exact ih.trans step.outcome_eq

/-- How many steps are left: the questions of each plan, and its entering and leaving. -/
def remaining (answer : (q : Ask) → Reply q) (window : Window Ask Reply α) : Nat :=
  (window.active.map fun plan => (plan.asked answer).length + 1).sum +
    (window.waiting.map fun plan => (plan.asked answer).length + 2).sum

/-- With a step there is one less left. -/
theorem Step.remaining_lt (h : Step limit answer window window') :
    window'.remaining answer < window.remaining answer := by
  cases h with
  | enter room =>
    simp only [remaining, List.map_append, List.map_cons, List.map_nil, List.sum_append,
      List.sum_cons, List.sum_nil]
    omega
  | reply =>
    simp only [remaining, List.map_append, List.map_cons, List.sum_append, List.sum_cons,
      Plan.asked, List.length_cons]
    omega
  | leave =>
    simp only [remaining, List.map_cons, List.sum_cons]
    omega

/-- If a plan may be on its way, something can happen until all results have left. -/
theorem exists_step (hlimit : 0 < limit) (answer : (q : Ask) → Reply q)
    (window : Window Ask Reply α) :
    (∃ results, window = finish results) ∨ ∃ window', Step limit answer window window' := by
  obtain ⟨results, active, waiting⟩ := window
  cases active with
  | nil =>
    cases waiting with
    | nil => exact .inl ⟨results, rfl⟩
    | cons plan waiting => exact .inr ⟨_, .enter hlimit⟩
  | cons plan active =>
    cases plan with
    | done result => exact .inr ⟨_, .leave⟩
    | ask question next =>
      have step : Step limit answer ⟨results, [] ++ .ask question next :: active, waiting⟩
          ⟨results, [] ++ next (answer question) :: active, waiting⟩ := .reply
      exact .inr ⟨_, step⟩

/-- All results leave in the end. -/
theorem exists_finish (hlimit : 0 < limit) (answer : (q : Ask) → Reply q)
    (window : Window Ask Reply α) :
    ∃ results, ReflTransGen (Step limit answer) window (finish results) := by
  induction hleft : window.remaining answer using Nat.strongRecOn generalizing window with
  | ind left ih =>
    rcases exists_step hlimit answer window with ⟨results, rfl⟩ | ⟨window', step⟩
    · exact ⟨results, .refl⟩
    · obtain ⟨results, run⟩ := ih _ (hleft ▸ step.remaining_lt) window' rfl
      exact ⟨results, .head step run⟩

/-- Plans side by side end with the results that each of them has by itself. -/
theorem run_iff (hlimit : 0 < limit) {plans : List (Plan Ask Reply α)} {results : List α} :
    ReflTransGen (Step limit answer) (start plans) (finish results) ↔
      results = plans.map (·.run answer) := by
  have hend {results : List α}
      (run : ReflTransGen (Step limit answer) (start plans) (finish results)) :
      results = plans.map (·.run answer) := by
    simpa [outcome, start, finish] using (outcome_eq_of_run run).symm
  refine ⟨hend, ?_⟩
  rintro rfl
  obtain ⟨results, run⟩ := exists_finish hlimit answer (start plans)
  exact hend run ▸ run

/-- A result that leaves belongs to a plan that was done before. -/
theorem exists_done_of_run {first : Window Ask Reply α} {result : α}
    (run : ReflTransGen (Step limit answer) first window) (hresult : result ∈ window.results)
    (hfirst : result ∉ first.results) :
    ∃ window', ReflTransGen (Step limit answer) first window' ∧ .done result ∈ window'.active := by
  induction run with
  | refl => exact absurd hresult hfirst
  | tail run step ih =>
    cases step with
    | enter room => exact ih hresult
    | reply => exact ih hresult
    | leave =>
      -- The result has left before, or it is the one that leaves now.
      rcases List.mem_append.mp hresult with hresult | hlast
      · exact ih hresult
      · obtain rfl := List.mem_singleton.mp hlast
        exact ⟨_, run, List.mem_cons_self⟩

/-- Side by side, a plan comes to be done with a result exactly if one of the plans has it. -/
theorem exists_done_iff (hlimit : 0 < limit) {plans : List (Plan Ask Reply α)} {result : α} :
    (∃ window, ReflTransGen (Step limit answer) (start plans) window ∧
      .done result ∈ window.active) ↔ ∃ plan ∈ plans, plan.run answer = result := by
  constructor
  · rintro ⟨window, run, hdone⟩
    -- What the plans come to does not change, and a plan on its way has a part in it.
    have hmem : result ∈ window.outcome answer :=
      List.mem_append_left _ (List.mem_append_right _ (List.mem_map_of_mem hdone))
    rw [← outcome_eq_of_run run] at hmem
    simpa [outcome, start] using hmem
  · intro hplan
    have hresult : result ∈ (finish (plans.map (·.run answer)) : Window Ask Reply α).results :=
      List.mem_map.mpr hplan
    exact exists_done_of_run ((run_iff hlimit).mpr rfl) hresult List.not_mem_nil

end Retrace.Window
