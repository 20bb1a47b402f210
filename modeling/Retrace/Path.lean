/-!
# Paths

Paths with slashes between their names, as texts. A path is a list of components: a root or a
leading dot, and the names between slashes, of which the empty ones and further dots do not count.
Two dots are a component like any other. Parts of paths keep the spelling they have inside the path,
slashes and dots included, except at their ends.
-/

namespace Retrace.Path

/-- Does a path start at the root? -/
def isAbsolute (path : List Char) : Bool :=
  path.head? = some '/'

/-- Splits off the root or a leading dot. -/
def splitHead : List Char → List Char × List Char
  | '/' :: body => (['/'], body)
  | ['.'] => (['.'], [])
  | '.' :: '/' :: body => (['.'], '/' :: body)
  | body => ([], body)

/-- The texts between the slashes behind the head of a path. -/
def segments (path : List Char) : List (List Char) :=
  (splitHead path).2.splitOn '/'

/-- Does a text between slashes not count as a component? -/
def isSilent (segment : List Char) : Bool :=
  segment = [] || segment = ['.']

/-- The components of a path; the root is a slash, a leading dot a dot. -/
def components (path : List Char) : List (List Char) :=
  let head := (splitHead path).1
  (if head = [] then [] else [head]) ++ (segments path).filter (!isSilent ·)

/-- Drops segments that do not count from the end. -/
def trimEnd (segments : List (List Char)) : List (List Char) :=
  (segments.reverse.dropWhile isSilent).reverse

/-- The text of segments. -/
def joinSegments (segments : List (List Char)) : List Char :=
  ['/'].intercalate segments

/-- A path without its last component. The root has no parent, nor has the empty path. -/
def parent? (path : List Char) : Option (List Char) :=
  let head := (splitHead path).1
  match trimEnd (segments path) with
  -- Only a leading dot has something above it, which is the empty path.
  | [] => if head = ['.'] then some [] else none
  | counted => some (head ++ joinSegments (trimEnd counted.dropLast))

/-- A path seen from a directory. An absolute path stays as it is. -/
def join (directory path : List Char) : List Char :=
  if isAbsolute path then path
  else if directory = [] || directory.getLast? = some '/' then directory ++ path
  else directory ++ '/' :: path

/-- Drops the given components from the front of segments. -/
def dropComponents? : List (List Char) → List (List Char) → Option (List (List Char))
  | [], segments => some segments
  | component :: components, segments =>
    match segments.dropWhile isSilent with
    | [] => none
    | segment :: segments =>
      if segment = component then dropComponents? components segments else none

/-- The rest of a path behind the components of another one. -/
def stripPrefix? (directory path : List Char) : Option (List Char) :=
  if (splitHead directory).1 = (splitHead path).1 then
    (dropComponents? ((segments directory).filter (!isSilent ·)) (segments path)).map fun rest =>
      joinSegments (trimEnd (rest.dropWhile isSilent))
  else none

end Retrace.Path
