import Retrace.Overflow
import Retrace.Text.Lines

/-!
# Lines around a position

A window of the lines of a source around one of them. Positions and sizes have 64 bits; a window
whose end does not fit has no answer. The steps to a window are also taken apart, with the fault of
the one that fails.
-/

namespace Retrace

/-- A line of a source and its neighbours. -/
structure SourceContext where
  /-- The lines before. -/
  pre : List String
  /-- The line itself. -/
  line : String
  /-- The lines after. -/
  post : List String
  deriving Repr, DecidableEq

namespace SourceContext

/-- The window of no line. -/
def empty : SourceContext := ⟨[], "", []⟩

/-- The bound of positions and sizes. -/
def positionBound : Nat := UInt64.size

/-- The window of `size` lines on either side of a line, which counts from one; line zero is taken
for the first. A line beyond the end has the empty window. -/
def around? (source : String) (line size : Nat) : Option SourceContext :=
  let lines := Text.linesOf source
  let index := line - 1
  match lines[index]? with
  | none => some empty
  | some current =>
    -- The end of the window is worked out before it is cut at the end of the source.
    if index + 1 + size < positionBound then
      some {
        pre := (lines.take index).drop (index - size)
        line := current
        post := (lines.drop (index + 1)).take size }
    else none

/-! ### The steps to a window -/

/-- What keeps a window from being cut out of a text. -/
inductive CutFault where
  /-- A sum does not fit into 64 bits. -/
  | sum
  /-- A line or a range of lines is not one of the text. -/
  | range
  deriving Repr, DecidableEq

/-- A sum of numbers of 64 bits. -/
def sum (overflow : Overflow) (a b : Nat) : Except CutFault Nat :=
  match overflow.sum? positionBound a b with
  | some n => .ok n
  | none => .error .sum

/-- The line at an index, which must be one of the text. -/
def lineAt (lines : List String) (index : Nat) : Except CutFault String :=
  match lines[index]? with
  | some line => .ok line
  | none => .error .range

/-- The lines from an index up to another, which must be in order and in the text. -/
def cut (lines : List String) (start stop : Nat) : Except CutFault (List String) :=
  if start ≤ stop ∧ stop ≤ lines.length then .ok (lines.extract start stop) else .error .range

/-- The window around a line, step by step. -/
def cutAround (overflow : Overflow) (lines : List String) (line size : Nat) :
    Except CutFault SourceContext :=
  let index := line - 1
  if lines.length ≤ index then .ok empty
  else do
    let current ← lineAt lines index
    let pre ← cut lines (index - size) index
    let next ← sum overflow index 1
    let stop ← sum overflow next size
    let post ← cut lines next (min stop lines.length)
    return ⟨pre, current, post⟩

end SourceContext

end Retrace
