import Retrace.Unicode.Blank

/-!
# Lines of a text

Texts are lists of characters. A line ends at a line feed or at the end of the text; a carriage
return just before a line feed belongs to the line end, and a text that ends in a line feed has no
empty line after it. Trimming removes blanks, in the sense of Unicode, from both ends.
-/

namespace Retrace.Text

/-- A terminated line without the carriage return that belongs to its line end. -/
def dropCarriageReturn (line : List Char) : List Char :=
  if line.getLast? = some '\r' then line.dropLast else line

/-- The lines of a text, without their line ends. -/
def lines (text : List Char) : List (List Char) :=
  let pieces := text.splitOn '\n'
  let terminated := pieces.dropLast.map dropCarriageReturn
  match pieces.getLast? with
  | some (c :: cs) => terminated ++ [c :: cs]
  | _ => terminated

/-- A text without the characters at its end that satisfy `p`. -/
def dropTrailing (p : Char → Bool) (text : List Char) : List Char :=
  (text.reverse.dropWhile p).reverse

/-- A text without the blanks at both ends. -/
def trim (text : List Char) : List Char :=
  dropTrailing Unicode.isBlank (text.dropWhile Unicode.isBlank)

/-- A text without the first occurrence of a piece in it. -/
def removeFirst (piece : List Char) : List Char → List Char
  | [] => []
  | c :: cs =>
    if piece.isPrefixOf (c :: cs) then (c :: cs).drop piece.length
    else c :: removeFirst piece cs

/-- The parts of a text before and after the last occurrence of a character. -/
def splitLast? (mark : Char) (text : List Char) : Option (List Char × List Char) :=
  let backwards := text.reverse
  match backwards.dropWhile (· ≠ mark) with
  | [] => none
  | _ :: before => some (before.reverse, (backwards.takeWhile (· ≠ mark)).reverse)

/-- The lines of a string, without their line ends. -/
def linesOf (text : String) : List String :=
  (lines text.toList).map String.ofList

/-- A string without the blanks at both ends. -/
def trimmed (text : String) : String :=
  String.ofList (trim text.toList)

end Retrace.Text
