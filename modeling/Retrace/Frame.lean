import Retrace.Text.Decimal
import Retrace.Text.Lines

/-!
# Stack frames

A frame is one call of a stack trace: a file of the generated code with a line and a column, and
the name of a method where the trace gives one. A line of a trace states a frame in one of two
shapes, each after an optional `at`:

- a named call, `name (file:line:column)`;
- an anonymous call, `file:line:column`, whose file starts like an absolute path, like a path with a
  drive, or like a URL.

Neither a name nor a file contains a line feed, and neither is empty. Of a named call the last
parenthesis after a space begins the file, as long as a file follows it. Lines and columns are ASCII
digits that fit 32 bits.
-/

namespace Retrace

/-- One call of a stack trace. -/
structure Frame where
  /-- The name of the method, nothing for an anonymous call. -/
  methodName : Option String
  /-- The path or the URL of the file. -/
  file : String
  /-- The line, as the trace gives it. -/
  line : UInt32
  /-- The column, as the trace gives it. -/
  column : UInt32
  deriving Repr, DecidableEq

/-- A call that is submitted on its own, outside of a trace. -/
structure FrameRequest where
  /-- The path or the URL of the file. -/
  bundledFile : String
  /-- The line. -/
  line : UInt32
  /-- The column. -/
  column : UInt32
  deriving Repr, DecidableEq

/-- A call submitted on its own is anonymous. -/
def FrameRequest.frame (request : FrameRequest) : Frame :=
  ⟨none, request.bundledFile, request.line, request.column⟩

/-- The shapes in which a line states a frame. -/
inductive FrameShape where
  /-- A named call. -/
  | named
  /-- An anonymous call. -/
  | anonymous
  deriving Repr, DecidableEq

namespace Frame

/-- The bound of lines and columns. -/
def coordinateBound : Nat := UInt32.size

/-- Splits a text at its last colon into what stands before and the number after. -/
def splitCoordinate? (text : List Char) : Option (List Char × UInt32) := do
  let (before, digits) ← Text.splitLast? ':' text
  let value ← Decimal.digits? coordinateBound digits
  return (before, UInt32.ofNat value)

/-- Splits a text into a file, a line and a column. -/
def splitLocation? (text : List Char) : Option (List Char × UInt32 × UInt32) := do
  let (before, column) ← splitCoordinate? text
  let (file, line) ← splitCoordinate? before
  return (file, line, column)

/-- Splits a text at the last parenthesis that follows a space and is followed by anything. -/
def splitCall? : List Char → Option (List Char × List Char)
  | [] => none
  | c :: text =>
    -- A parenthesis further on wins.
    match splitCall? text with
    | some (name, file) => some (c :: name, file)
    | none =>
      match c, text with
      | ' ', '(' :: d :: file => some ([], d :: file)
      | _, _ => none

/-- Reads a named call. -/
def readNamed? (text : List Char) : Option Frame := do
  guard (text.getLast? = some ')')
  let (call, line, column) ← splitLocation? text.dropLast
  let (name, file) ← splitCall? call
  -- The call is the name, a parenthesis and the file: a line feed in either shows here.
  guard (!name.isEmpty ∧ !call.contains '\n')
  return ⟨some (String.ofList name), String.ofList file, line, column⟩

/-- May the character follow the first letter of a URL scheme? -/
def isSchemeChar (c : Char) : Bool :=
  c.isAlphanum || c = '+' || c = '.' || c = '-'

/-- Does a text start like a URL and go on behind its slashes? -/
def startsAsUrl (text : List Char) : Bool :=
  match text with
  | [] => false
  | c :: rest =>
    c.isAlpha &&
      match rest.dropWhile isSchemeChar with
      | ':' :: '/' :: '/' :: _ :: _ => true
      | _ => false

/-- Does a text start like an absolute path or a path with a drive, and go on behind its root? -/
def startsAsPath : List Char → Bool
  | '/' :: _ :: _ => true
  | drive :: ':' :: '/' :: _ :: _ => drive.isAlpha
  | drive :: ':' :: '\\' :: _ :: _ => drive.isAlpha
  | _ => false

/-- Reads an anonymous call. -/
def readAnonymous? (text : List Char) : Option Frame := do
  let (file, line, column) ← splitLocation? text
  guard ((startsAsPath file || startsAsUrl file) ∧ !file.contains '\n')
  return ⟨none, String.ofList file, line, column⟩

/-- Reads a frame of one shape, without an `at` and blanks around it. -/
def readShape? : FrameShape → List Char → Option Frame
  | .named => readNamed?
  | .anonymous => readAnonymous?

/-- A text without an `at` that blanks follow, and without those blanks. -/
def dropAt : List Char → List Char
  | 'a' :: 't' :: c :: text =>
    if Unicode.isBlank c then text.dropWhile Unicode.isBlank else 'a' :: 't' :: c :: text
  | text => text

/-- The part of a line that states the frame. -/
def core (line : List Char) : List Char :=
  Text.trim (dropAt (Text.trim line))

/-- The frame that a line states, in the first shape that fits. -/
def read? (line : String) : Option Frame :=
  (readNamed? (core line.toList)).or (readAnonymous? (core line.toList))

/-- The frames of the lines of a trace. -/
def readTrace (trace : String) : List (Option Frame) :=
  (Text.linesOf trace).map read?

/-- The place of a frame: its file, line and column. -/
def location (frame : Frame) : String :=
  s!"{frame.file}:{frame.line.toNat}:{frame.column.toNat}"

/-- The text of a frame, in the shape that it has. -/
def print (frame : Frame) : String :=
  match frame.methodName with
  | some name => s!"{name} ({frame.location})"
  | none => frame.location

end Frame

end Retrace
