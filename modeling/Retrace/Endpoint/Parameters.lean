import Retrace.Endpoint.Fault
import Retrace.Endpoint.Form
import Retrace.Frame
import Retrace.Text.Decimal
import Retrace.Text.Lines

/-!
# Parameters of a frame

The parameters with which a single frame is submitted. The file has two names, of which the longer
one wins; a parameter that is empty counts as missing. All missing parameters are reported at once,
and before any number is read.
-/

namespace Retrace

/-- The parameters of a frame, as they are submitted. -/
structure FrameParameters where
  /-- The file, by its longer name. -/
  bundledFile : Option String := none
  /-- The file, by its shorter name. -/
  file : Option String := none
  /-- The line. -/
  line : Option String := none
  /-- The column. -/
  column : Option String := none
  deriving Repr, DecidableEq

namespace FrameParameters

/-- Sets a parameter that has not been set. -/
def setOnce (name value : String) : Option String → Except RequestFault (Option String)
  | none => .ok (some value)
  | some _ => .error (.repeated name)

/-- Adds a pair of a form. Names that are not those of parameters do not count. -/
def add (parameters : FrameParameters) (pair : String × String) :
    Except RequestFault FrameParameters := do
  let (name, value) := pair
  if name = "bundledFile" then
    return { parameters with bundledFile := ← setOnce name value parameters.bundledFile }
  else if name = "file" then
    return { parameters with file := ← setOnce name value parameters.file }
  else if name = "line" then
    return { parameters with line := ← setOnce name value parameters.line }
  else if name = "column" then
    return { parameters with column := ← setOnce name value parameters.column }
  else return parameters

/-- The parameters of the query of a request. -/
def ofQuery (query : List Char) : Except RequestFault FrameParameters :=
  (Form.pairs query).foldlM add {}

/-- A parameter that is set and not empty. -/
def given? (parameter : Option String) : Option String :=
  parameter.filter (!·.isEmpty)

/-- Reads a number of 32 bits, with blanks around it. -/
def coordinate (name value : String) : Except RequestFault UInt32 :=
  match Decimal.signed? UInt32.size (Text.trim value.toList) with
  | some number => .ok (UInt32.ofNat number)
  | none => .error (.invalid name value)

/-- The names of those that are missing. -/
def missingNames (file line column : Option String) : List String :=
  [("file", file), ("line", line), ("column", column)].filterMap fun (name, value) =>
    if value.isNone then some name else none

/-- The request that parameters make. -/
def request (parameters : FrameParameters) : Except RequestFault FrameRequest :=
  let file := (given? parameters.bundledFile).or (given? parameters.file)
  match file, given? parameters.line, given? parameters.column with
  | some file, some line, some column => do
    let line ← coordinate "line" line
    let column ← coordinate "column" column
    return ⟨file, line, column⟩
  | file, line, column => .error (.missing (missingNames file line column))

end FrameParameters

end Retrace
