import Retrace.Position
import Retrace.SourceMap.Lookup
import Retrace.Symbolication.Fault

/-!
# Resolving positions

Where a position of the generated text comes from, as a source map alone tells: the file, with the
mark removed that bundlers put in front of the names of route modules, the place in it, and its
content where the map embeds it.
-/

namespace Retrace

/-- The mark of route modules. -/
def routeModuleMark : String := "route-module:"

namespace SourceMap

/-- The position that a place in a source stands for. -/
def positionOf (m : SourceMap) (place : SourcePosition) : Position where
  file := String.ofList (Text.removeFirst routeModuleMark.toList place.source.toList)
  line := place.line
  column := place.column
  sourceContent := m.contentOf? place.sourceIndex

/-- Resolves a position of the generated text whose line counts from one. There is no answer where
the lookup has none. -/
def resolve? (m : SourceMap) (overflow : Overflow) (line column : UInt32) :
    Option (Except ResolveFault Position) :=
  match m.index with
  | .error fault => some (.error (.malformedMap fault))
  | .ok index =>
    (index.sourcePosition? overflow line column).map fun found =>
      match found with
      | .error fault => .error (.malformedMap fault)
      | .ok none => .error (.unmapped line column)
      | .ok (some place) => .ok (m.positionOf place)

end SourceMap

end Retrace
