import Retrace.Artifact.Fault
import Retrace.Path
import Retrace.Text.Utf8

/-!
# Trees of files

A directory with files and directories below it, in which paths are walked name by name. A path that
is not absolute starts in that directory. The directories above it are there too, and hold nothing
else.
-/

namespace Retrace

/-- What stands at a path of a tree. -/
inductive FileNode where
  /-- A file with its content. -/
  | file (bytes : List UInt8)
  /-- A directory. -/
  | directory

/-- A directory of a file system with what is below it. -/
structure FileTree where
  /-- The names that lead to the directory from the root. -/
  base : List (List Char)
  /-- What is below the directory, by the names that lead to it. -/
  entries : List (List (List Char) × FileNode)

namespace FileTree

/-- How many bytes a name may have. -/
def nameLimit : Nat := 255

/-- How many bytes a path must not reach. -/
def pathLimit : Nat := 4096

/-- What stands at the end of names that lead from the root. -/
def node? (tree : FileTree) (names : List (List Char)) : Option FileNode :=
  if names.isPrefixOf tree.base then some .directory
  else if tree.base.isPrefixOf names then
    let below := names.drop tree.base.length
    match tree.entries.lookup below with
    | some node => some node
    | none => if tree.entries.any (below.isPrefixOf ·.1) then some .directory else none
  else none

/-- One step from a directory, given by its names. -/
def step (tree : FileTree) (names : List (List Char)) (segment : List Char) :
    Except FileFault (List (List Char)) :=
  match tree.node? names with
  | some .directory =>
    if Path.isSilent segment then .ok names
    else if segment = "..".toList then .ok names.dropLast
    else if nameLimit < (Text.Utf8.encode segment).length then .error .nameTooLong
    -- A name is refused for its length before it is looked up.
    else if (tree.node? (names ++ [segment])).isSome then .ok (names ++ [segment])
    else .error .missing
  | _ => .error .notDirectory

/-- The content of the file at a path. -/
def read (tree : FileTree) (path : String) : Except FileFault (List UInt8) := do
  let text := path.toList
  if text.contains '\x00' then throw .endedPath
  if text.isEmpty then throw .missing
  if pathLimit ≤ (Text.Utf8.encode text).length then throw .nameTooLong
  let start := if Path.isAbsolute text then [] else tree.base
  let names ← (text.splitOn '/').foldlM tree.step start
  match tree.node? names with
  | some (.file bytes) => return bytes
  | some .directory => throw .isDirectory
  | none => throw .missing

end FileTree

end Retrace
