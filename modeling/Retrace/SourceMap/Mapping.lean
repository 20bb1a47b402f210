/-!
# Mappings

A mapping ties a position of the generated text to one of the sources. Positions count lines and
columns from zero and have 32 bits. A mapping without origin marks generated text that comes from no
source.
-/

namespace Retrace

/-- A position of a source, by the numbers of the source and of a name in the lists of the source
map. -/
structure Origin where
  /-- The number of the source. -/
  sourceIndex : UInt32
  /-- The line in the source. -/
  line : UInt32
  /-- The column in the source. -/
  column : UInt32
  /-- The number of a name. -/
  nameIndex : Option UInt32
  deriving Repr, DecidableEq

/-- A position of the generated text and where it comes from. -/
structure Mapping where
  /-- The line of the generated text. -/
  generatedLine : UInt32
  /-- The column of the generated text. -/
  generatedColumn : UInt32
  /-- The position of a source, nothing for generated text without one. -/
  origin : Option Origin
  deriving Repr, DecidableEq

namespace Mapping

/-- Does the mapping stand at or before a position of the generated text? -/
def isAtOrBefore (m : Mapping) (line column : UInt32) : Bool :=
  m.generatedLine < line || (m.generatedLine == line && m.generatedColumn ≤ column)

/-- Do two mappings stand in the order of the generated text? -/
def inOrder (a b : Mapping) : Bool :=
  a.isAtOrBefore b.generatedLine b.generatedColumn

/-- The order of the generated text is transitive. -/
theorem inOrder_trans (a b c : Mapping) (hab : a.inOrder b = true) (hbc : b.inOrder c = true) :
    a.inOrder c = true := by
  simp only [inOrder, isAtOrBefore, Bool.or_eq_true, Bool.and_eq_true, decide_eq_true_eq,
    beq_iff_eq, UInt32.lt_iff_toNat_lt, UInt32.le_iff_toNat_le, ← UInt32.toNat_inj] at *
  omega

/-- Any two mappings stand in order one way or the other. -/
theorem inOrder_total (a b : Mapping) : (a.inOrder b || b.inOrder a) = true := by
  simp only [inOrder, isAtOrBefore, Bool.or_eq_true, Bool.and_eq_true, decide_eq_true_eq,
    beq_iff_eq, UInt32.lt_iff_toNat_lt, UInt32.le_iff_toNat_le, ← UInt32.toNat_inj]
  omega

end Mapping

end Retrace
