import Retrace.Endpoint.Routes
import Retrace.Proofs.Json.Printing

/-!
# Submitted lines

Any lines can be submitted: their written form is read back to them (`read_toJson`), whatever
characters they are made of.
-/

namespace Retrace

namespace TraceRequest

/-- The written form of submitted lines. -/
def toJson (submitted : TraceRequest) : Json.Value :=
  .record [("stacktrace", .list (submitted.lines.map .text))]

/-- The only member can be taken at any place. -/
theorem isRegular_shape : shape.IsRegular := by
  simp [shape]

/-- Lines are decoded as they are written. -/
theorem list?_elementTrees (lines : List String) :
    Json.Tree.list? Json.Tree.text? (.list (Json.Value.elementTrees (lines.map .text))) =
      some lines := by
  refine Text.mapM_eq_some_iff_forall₂.mpr ?_
  induction lines with
  | nil => exact .nil
  | cons line lines ih => exact .cons rfl ih

/-- Submitted lines are read as they are written. -/
theorem read_toJson (lines : List String) :
    Json.read reader (Text.Utf8.encode (toJson ⟨lines⟩).print) = .ok ⟨lines⟩ := by
  refine Json.Shape.read_print isRegular_shape (by simp) ?_
  exact (Json.assemble?_required Json.Reader.text_decodes.list).mpr
    ⟨_, list?_elementTrees lines, rfl⟩

end TraceRequest

end Retrace
