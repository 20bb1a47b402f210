import Retrace.Position
import Retrace.SourceContext

/-!
# Reports of traces

What a terminal shows of a resolved trace: each line of the trace as it stands and, where the line
has a position, that position and the lines of the source around it. Lines of a source are shown
with their numbers, aligned to the right, and the line of the position is marked.

A report has no text when the window around one of its positions has none.
-/

namespace Retrace.Report

/-- A line of a source as a block shows it. -/
structure Row where
  /-- Is it the line of the position? -/
  marked : Bool
  /-- The number shown beside the line. -/
  number : Nat
  /-- The line. -/
  text : String
  deriving Repr, DecidableEq

/-- The digits of a number. -/
def digits (n : Nat) : List Char :=
  Nat.toDigits 10 n

/-- The text of a row whose number is aligned to `width` columns. -/
def Row.print (width : Nat) (row : Row) : String :=
  let number := String.ofList ((digits row.number).leftpad width ' ')
  let mark := if row.marked then "     > " else "       "
  s!"{mark}{number} | {row.text}\n"

/-- The rows of lines that have consecutive numbers from `first` on. -/
def rowsFrom (first : Nat) (lines : List String) : List Row :=
  lines.mapIdx fun i text => ⟨false, first + i, text⟩

/-- The rows of a window around the line of a position. -/
def rows (line : Nat) (window : SourceContext) : List Row :=
  rowsFrom (line - window.pre.length) window.pre ++
    ⟨true, line, window.line⟩ :: rowsFrom (line + 1) window.post

/-- The text of a window around the line of a position, as wide as its greatest number. -/
def printWindow (line : Nat) (window : SourceContext) : String :=
  -- The last row has the greatest number.
  let width := (digits (line + window.post.length)).length
  String.join ((rows line window).map (Row.print width))

/-- Is there nothing to show of a window? An empty line without lines before it is taken for the
window of no line. -/
def isBlank (window : SourceContext) : Bool :=
  window.line.isEmpty && window.pre.isEmpty

/-- The lines of a source that are shown for a position, `context` of them on either side. -/
def block? (context : Nat) (position : Position) : Option String :=
  match position.sourceContent with
  | none => some ""
  | some content =>
    if context = 0 then some ""
    else
      let line := position.line.toNat
      (SourceContext.around? content line context).map fun window =>
        if isBlank window then "" else printWindow line window

/-- What is shown of a line of a trace and its result. -/
def piece? (context : Nat) (line : String) : Option Position → Option String
  | none => some s!"{line}\n"
  | some position =>
    (block? context position).map fun block =>
      s!"{line}\n    -> {position.location}\n{block}"

/-- The report of the lines of a trace and their results. -/
def render? (context : Nat) (lines : List String) (results : List (Option Position)) :
    Option String :=
  ((lines.zip results).mapM fun (line, result) => piece? context line result).map String.join

end Retrace.Report
