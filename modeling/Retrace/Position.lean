/-!
# Resolved positions
-/

namespace Retrace

/-- Where a frame comes from: a place in one of the sources, with the whole text of that source
where it is known. -/
structure Position where
  /-- The path or the URL of the source. -/
  file : String
  /-- The line, from one. -/
  line : UInt32
  /-- The column. -/
  column : UInt32
  /-- The text of the source. -/
  sourceContent : Option String
  deriving Repr, DecidableEq

/-- The place of a position: its file, line and column. -/
def Position.location (position : Position) : String :=
  s!"{position.file}:{position.line.toNat}:{position.column.toNat}"

end Retrace
