import Retrace.Url.Basic

/-!
# Segments of a URL's path

Reading the hierarchical path of a URL. Slashes, and backslashes in a special URL, end a segment; a
question mark or a number sign ends the path. One dot stands for the segment itself, two dots for
the one before, which they remove unless it is a drive. In the URL of a file the first segment may
be a drive, written with a colon or a bar.
-/

namespace Retrace.Url

/-- Is the character a slash in a special URL, or a slash in any? -/
def isSlash (isSpecial : Bool) (c : Char) : Bool :=
  c = '/' || (isSpecial && c = '\\')

/-- Does the character end a path? -/
def endsPath (c : Char) : Bool := c = '?' || c = '#'

/-- Is the segment one dot, written out or not? -/
def isSingleDot (segment : List Char) : Bool :=
  let segment := segment.map Char.toLower
  segment = ".".toList || segment = "%2e".toList

/-- Is the segment two dots, written out or not? -/
def isDoubleDot (segment : List Char) : Bool :=
  let segment := segment.map Char.toLower
  segment = "..".toList || segment = ".%2e".toList || segment = "%2e.".toList ||
    segment = "%2e%2e".toList

/-- Is the text a drive, a letter with a colon or a bar? -/
def isDrive : List Char → Bool
  | [letter, mark] => letter.isAlpha && (mark = ':' || mark = '|')
  | _ => false

/-- Is the text a drive with a colon? -/
def isNormalDrive (text : List Char) : Bool :=
  isDrive text && text.getLast? = some ':'

/-- Does a text start with a drive that is a whole segment? -/
def startsWithDrive (text : List Char) : Bool :=
  isDrive (text.take 2) &&
    match text.drop 2 with
    | [] => true
    | c :: _ => c = '/' || c = '\\' || endsPath c

/-- Removes the last segment unless it is a drive. -/
def removeLast (segments : List (List Char)) : List (List Char) :=
  match segments.getLast? with
  | some last => if isDrive last then segments else segments.dropLast
  | none => []

/-- How the segments of a path are read. -/
structure PathRules where
  /-- Is the URL special? -/
  isSpecial : Bool
  /-- Is the URL that of a file? -/
  isFile : Bool

/-- The segment that a text stands for behind the segments `before`. -/
def PathRules.normalize (rules : PathRules) (before : List (List Char)) (segment : List Char) :
    List Char :=
  if rules.isFile ∧ before.isEmpty ∧ isDrive segment then segment.take 1 ++ [':']
  else percentEncode inPath segment

/-- The segments after one more, which a slash follows. -/
def PathRules.push (rules : PathRules) (before : List (List Char)) (segment : List Char) :
    List (List Char) :=
  if isDoubleDot segment then removeLast before
  else if isSingleDot segment then before
  else before ++ [rules.normalize before segment]

/-- The segments after the last one. Dots at the end leave an empty segment. -/
def PathRules.finish (rules : PathRules) (before : List (List Char)) (segment : List Char) :
    List (List Char) :=
  if isDoubleDot segment then removeLast before ++ [[]]
  else if isSingleDot segment then before ++ [[]]
  else before ++ [rules.normalize before segment]

/-- Reads a path to its end behind the segments `before`, with the current segment, backwards, in
`current`. Returns the segments and what follows the path. -/
def PathRules.read (rules : PathRules) (before : List (List Char)) (current : List Char) :
    List Char → List (List Char) × List Char
  | [] => (rules.finish before current.reverse, [])
  | c :: text =>
    if isSlash rules.isSpecial c then rules.read (rules.push before current.reverse) [] text
    else if endsPath c then (rules.finish before current.reverse, c :: text)
    else rules.read before (c :: current) text

/-- Empty segments at the front of a file's path do not count, unless nothing follows them. -/
def dropEmptySegments : List (List Char) → List (List Char)
  | [] :: segment :: segments => dropEmptySegments (segment :: segments)
  | segments => segments

end Retrace.Url
