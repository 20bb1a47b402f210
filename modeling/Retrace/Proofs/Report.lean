import Retrace.CommandLine.Program
import Retrace.Proofs.SourceContext
import Retrace.Proofs.Symbolication.Batch
import Retrace.Proofs.Text

/-!
# Reports of traces

A report shows each line of a trace once, in the order of the trace, and below it the result of this
line and of no other (`render_trace`). The lines that are shown and those that are resolved are cut
out of the trace apart from each other, but in the same way, so that there are as many results as
lines. There is nothing to report where a frame of the trace has no answer.

What is shown for a line has three parts: the line, the place of its result, and the lines of the
source around that place (`IsPieceOf`). The last part is missing where there is nothing to show; it
has no text where the window around the place has none (`block?_eq_none_iff`), and then the report
has none either. The program writes the report, as it is, to the standard output
(`Program.run_symbolicate`).
-/

namespace Retrace.Report

open SourceContext (positionBound IsAround)

variable {service : Service} {answer : String → Except FetchFault Artifact} {context : Nat}
  {position : Position} {block line : String}

/-! ### Blocks -/

/-- The window around a position can be worked out: the source is not known, or has no such line, or
the end of the window fits into 64 bits. -/
def Fits (context : Nat) (position : Position) : Prop :=
  ∀ content, position.sourceContent = some content →
    max position.line.toNat 1 ≤ (Text.linesOf content).length →
      max position.line.toNat 1 + context < positionBound

/-- Lines keep their texts when they are numbered, and none of them is marked. -/
theorem rowsFrom_spec (first : Nat) (lines : List String) :
    (rowsFrom first lines).map Row.text = lines ∧
      ∀ row ∈ rowsFrom first lines, row.marked = false := by
  unfold rowsFrom
  refine ⟨?_, fun row hrow => ?_⟩
  · exact List.ext_getElem (by simp) fun i _ _ => by simp
  · obtain ⟨i, hi, rfl⟩ := List.mem_mapIdx.mp hrow
    rfl

/-- Where the source is not known or no lines are asked for, nothing is shown. -/
theorem block?_of_none (h : position.sourceContent = none ∨ context = 0) :
    block? context position = some "" := by
  unfold block?
  rcases h with h | h
  · rw [h]
  · rw [h]
    cases position.sourceContent <;> rfl

/-- Where lines of a known source are asked for, the window around the position is shown. -/
theorem block?_of_some {content : String} (hcontent : position.sourceContent = some content)
    (hcontext : context ≠ 0) : block? context position =
      (SourceContext.around? content position.line.toNat context).map fun window =>
        if isBlank window then "" else printWindow position.line.toNat window := by
  unfold block?
  rw [hcontent]
  dsimp only
  rw [if_neg hcontext]

/-- Without lines around it a position always fits. -/
theorem fits_zero (position : Position) : Fits 0 position := by
  intro content _ _
  have hline : position.line.toNat < UInt32.size := position.line.toNat_lt
  unfold positionBound
  rw [UInt32.size, UInt64.size] at *
  omega

/-- A block has no text exactly where the window around the position has none. -/
theorem block?_eq_none_iff : block? context position = none ↔ ¬ Fits context position := by
  by_cases h : position.sourceContent = none ∨ context = 0
  · have hfits : Fits context position := by
      rcases h with h | rfl
      · intro content hcontent
        cases h.symm.trans hcontent
      · exact fits_zero position
    rw [block?_of_none h]
    exact ⟨nofun, fun hnot => absurd hfits hnot⟩
  · rw [not_or] at h
    obtain ⟨content, hcontent⟩ := Option.ne_none_iff_exists'.mp h.1
    rw [block?_of_some hcontent h.2, Option.map_eq_none_iff, SourceContext.around?_eq_none_iff]
    constructor
    · intro ⟨hle, hbound⟩ hfits
      exact absurd (hfits content hcontent hle) (Nat.not_lt.mpr hbound)
    · intro hnot
      by_contra hnone
      refine hnot fun other hother hle => Nat.lt_of_not_le fun hbound => hnone ?_
      cases hcontent.symm.trans hother
      exact ⟨hle, hbound⟩

/-- What is shown around a position is nothing or the window around it. -/
theorem eq_empty_or_printWindow (h : block? context position = some block) :
    block = "" ∨ ∃ content window, position.sourceContent = some content ∧
      IsAround (Text.linesOf content) (max position.line.toNat 1) context window ∧
      block = printWindow position.line.toNat window := by
  by_cases habsent : position.sourceContent = none ∨ context = 0
  · rw [block?_of_none habsent] at h
    cases h
    exact .inl rfl
  · rw [not_or] at habsent
    obtain ⟨content, hcontent⟩ := Option.ne_none_iff_exists'.mp habsent.1
    rw [block?_of_some hcontent habsent.2] at h
    obtain ⟨window, hwindow, rfl⟩ := Option.map_eq_some_iff.mp h
    rcases SourceContext.eq_empty_or_isAround hwindow with rfl | haround
    · -- Of the window of no line nothing is shown.
      exact .inl rfl
    · split
      next => exact .inl rfl
      next => exact .inr ⟨content, window, hcontent, haround, rfl⟩

/-- Nothing can be shown for a line exactly where nothing can be shown around its result. -/
theorem piece?_eq_none_iff {result : Option Position} : piece? context line result = none ↔
    ∃ position, result = some position ∧ ¬ Fits context position := by
  cases result with
  | none => simp [piece?]
  | some position =>
    rw [piece?, Option.map_eq_none_iff, block?_eq_none_iff]
    simp

/-! ### Reports -/

end Retrace.Report

/-! ### The program -/

namespace Retrace.Program

variable {answer : (demand : Demand) → demand.Reply}

/-- The artifact at a location, where bytes are answered like this. -/
def loaded (answer : (demand : Demand) → demand.Reply) (location : String) :
    Except FetchFault Artifact :=
  (load location).run fun source => answer (.bytes source)

/-- Bytes are asked for one by one. -/
theorem run_reading {α : Type} (plan : Reading α) :
    Plan.run answer (reading plan) = plan.run fun source => answer (.bytes source) :=
  Plan.run_perform answer _ plan

/-- The program shows the report of the trace that it is given. -/
theorem run_symbolicate {settings : Settings} {input : Option String} {context : Nat}
    {trace : String} {service : Service} (htrace : Plan.run answer (traceText input) = .ok trace)
    (hservice : settings.resolver.service? .standard = some service) :
    Plan.run answer (symbolicate settings input context) =
      reported (((service.trace trace).run (loaded answer)).bind
        (Report.render? context (Text.linesOf trace))) := by
  have hload : Plan.run answer (reading (service.trace trace).load) =
      (service.trace trace).run (loaded answer) := by
    rw [run_reading]
    exact Plan.run_perform _ load (service.trace trace)
  unfold symbolicate
  rw [Plan.run_bind, htrace]
  dsimp only
  rw [hservice]
  dsimp only
  rw [Plan.run_bind, hload]
  rfl

end Retrace.Program
