import Retrace.Path
import Retrace.Position

/-!
# Answers for single frames

What a caller is told of a resolved frame: the position, with its file seen from a root directory
when the file lies in it. Whether it does is decided by whole components of the paths.
-/

namespace Retrace

/-- What a caller is told of a resolved frame. -/
structure FrameAnswer where
  /-- The root directory. -/
  root : String
  /-- The file, seen from the root when it lies in it. -/
  file : String
  /-- The text of the source. -/
  sourceContent : Option String
  /-- The line. -/
  line : Option UInt32
  /-- The column. -/
  column : Option UInt32
  deriving Repr, DecidableEq

namespace FrameAnswer

/-- A file seen from a root directory: its rest behind the root after a slash. No file lies in the
root that has no name. -/
def fileFrom (root file : String) : String :=
  if root.isEmpty then file
  else
    match Path.stripPrefix? root.toList file.toList with
    | some rest => String.ofList ('/' :: rest)
    | none => file

/-- What a caller is told of a position. -/
def ofPosition (root : String) (position : Position) : FrameAnswer where
  root := root
  file := fileFrom root position.file
  sourceContent := position.sourceContent
  line := some position.line
  column := some position.column

end FrameAnswer

end Retrace
