import Retrace.Unicode.Blank
import Retrace.Unicode.CaseFold
import Retrace.Unicode.GeneralCategory
import Retrace.Unicode.Word

/-!
# Sets of characters in patterns

A set of characters as a pattern describes it, and its members.
-/

namespace Retrace.Pattern

/-- A set of characters. -/
inductive CharSet where
  /-- No character. -/
  | none
  /-- The characters from one to another. -/
  | span (first last : Char)
  /-- The characters of the general category with this short name. -/
  | category (name : String)
  /-- The blanks. -/
  | blank
  /-- The word characters. -/
  | word
  /-- The characters of either set. -/
  | union (a b : CharSet)
  /-- The characters of both sets. -/
  | inter (a b : CharSet)
  /-- All other characters. -/
  | compl (a : CharSet)
  /-- The characters that differ in case at most from one of the set. -/
  | folded (a : CharSet)
  deriving DecidableEq, Repr

namespace CharSet

/-- Membership. -/
def contains : CharSet → Char → Bool
  | none, _ => false
  | span first last, c => first ≤ c && c ≤ last
  | category name, c => (Unicode.categoryRanges name).contains c
  | blank, c => Unicode.isBlank c
  | word, c => Unicode.isWord c
  | union a b, c => a.contains c || b.contains c
  | inter a b, c => a.contains c && b.contains c
  | compl a, c => !a.contains c
  | folded a, c => (Unicode.caseVariants c).any a.contains

/-- The set of one character. -/
def single (c : Char) : CharSet := span c c

/-- All characters. -/
def all : CharSet := compl none

/-- The union of sets. -/
def unions (sets : List CharSet) : CharSet := sets.foldl union none

/-- The characters of the first set that are not in the second. -/
def diff (a b : CharSet) : CharSet := inter a (compl b)

/-- The characters of exactly one of two sets. -/
def symmDiff (a b : CharSet) : CharSet := union (diff a b) (diff b a)

/-- The ASCII characters. -/
def ascii : CharSet := span '\x00' '\x7f'

/-- The characters of a set, and the ASCII characters that differ in case at most from one of the
set's. -/
def foldedAscii (s : CharSet) : CharSet := union s (inter ascii (folded (inter ascii s)))

/-- The characters whose codes fit into a byte. -/
def bytes : CharSet := span '\x00' '\xff'

/-- Are all characters of a set of bytes ASCII characters? -/
def isAsciiBytes (s : CharSet) : Bool :=
  (List.range 128).all fun n => !s.contains (Char.ofNat (n + 128))

/-- The ASCII letters. -/
def asciiLetters : CharSet := union (span 'A' 'Z') (span 'a' 'z')

/-- The ASCII digits. -/
def asciiDigits : CharSet := span '0' '9'

/-- The ASCII letters, digits and the underscore. -/
def asciiWord : CharSet := unions [asciiLetters, asciiDigits, single '_']

/-- The ASCII blanks. -/
def asciiBlank : CharSet := union (span '\t' '\r') (single ' ')

/-- The sets of ASCII characters that stand between colons in a class. -/
def posix? (name : String) : Option CharSet :=
  match name with
  | "alnum" => some (union asciiLetters asciiDigits)
  | "alpha" => some asciiLetters
  | "ascii" => some ascii
  | "blank" => some (union (single '\t') (single ' '))
  | "cntrl" => some (union (span '\x00' '\x1f') (single '\x7f'))
  | "digit" => some asciiDigits
  | "graph" => some (span '!' '~')
  | "lower" => some (span 'a' 'z')
  | "print" => some (span ' ' '~')
  | "punct" => some (unions [span '!' '/', span ':' '@', span '[' '\x60', span '\x7b' '~'])
  | "space" => some asciiBlank
  | "upper" => some (span 'A' 'Z')
  | "word" => some asciiWord
  | "xdigit" => some (unions [asciiDigits, span 'A' 'F', span 'a' 'f'])
  | _ => Option.none

/-- The characters of a property of Unicode, by its name. -/
def property? (name : String) : Option CharSet :=
  match name with
  | "any" => some all
  | "assigned" => some (compl (category "cn"))
  | "ascii" => some ascii
  | "whitespace" | "wspace" | "space" => some blank
  | _ => (Unicode.categoriesOf? name).map fun categories => unions (categories.map category)

end CharSet

end Retrace.Pattern
