import Retrace.Overflow
import Retrace.SourceMap.Document
import Retrace.SourceMap.Mappings

/-!
# Looking positions up

A source map together with the table of its mappings, for looking up where a position of the
generated text comes from. Lines count from one here, columns from zero.
-/

namespace Retrace

/-- A position of a source as a lookup finds it. -/
structure SourcePosition where
  /-- The name of the source behind the common root. -/
  source : String
  /-- The number of the source. -/
  sourceIndex : UInt32
  /-- The line in the source, from one. -/
  line : UInt32
  /-- The column in the source. -/
  column : UInt32
  deriving Repr, DecidableEq

/-- A source map and the table of its mappings. -/
structure IndexedMap where
  /-- The source map. -/
  map : SourceMap
  /-- Its mappings. -/
  table : MappingTable

/-- Reads the mappings of a source map. -/
def SourceMap.index (m : SourceMap) : Except MapFault IndexedMap := do
  m.checkVersion
  return ⟨m, ← Mappings.read m.mappings⟩

/-- The origin of a position of the generated text whose line counts from one. No position is on
line zero. -/
def IndexedMap.originAt? (m : IndexedMap) (line column : UInt32) : Option Origin :=
  if line = 0 then none else (m.table.find? (line - 1) column).bind (·.origin)

/-- Where a position of the generated text comes from. The source must be listed. There is no answer
where the line in the source, counted from one, is refused because it does not fit. -/
def IndexedMap.sourcePosition? (m : IndexedMap) (overflow : Overflow) (line column : UInt32) :
    Option (Except MapFault (Option SourcePosition)) :=
  match m.originAt? line column with
  | none => some (.ok none)
  | some origin =>
    match m.map.sources[origin.sourceIndex.toNat]? with
    | none => some (.error (.sourceIndex origin.sourceIndex))
    | some source =>
      (overflow.next? origin.line).map fun line =>
        .ok (some ⟨m.map.sourcePath source, origin.sourceIndex, line, origin.column⟩)

end Retrace
