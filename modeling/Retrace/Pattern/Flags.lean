import Retrace.Pattern.Expr

/-!
# Flags of patterns

Flags change what the rest of a group means: letters in any case, lines or the whole text, line
feeds and the dot, which repetitions are greedy, Unicode or ASCII, which line ends count, and
whether blanks and comments are left out.
-/

namespace Retrace.Pattern

/-- What the flags say at a place of a pattern. -/
structure Flags where
  /-- Letters stand for either case. -/
  ignoreCase : Bool := false
  /-- The anchors are those of lines. -/
  multiLine : Bool := false
  /-- The dot stands for line ends too. -/
  dotAll : Bool := false
  /-- Repetitions are greedy only with a question mark. -/
  swapGreed : Bool := false
  /-- Classes are those of Unicode. -/
  unicode : Bool := true
  /-- Carriage returns end lines too. -/
  anyLineEnd : Bool := false
  /-- Blanks and comments are left out. -/
  verbose : Bool := false

/-- What the flags say at the start of a pattern. -/
def Flags.start : Flags where

/-- Sets the flag of a letter. -/
def Flags.set? (flags : Flags) (letter : Char) (value : Bool) : Option Flags :=
  match letter with
  | 'i' => some { flags with ignoreCase := value }
  | 'm' => some { flags with multiLine := value }
  | 's' => some { flags with dotAll := value }
  | 'U' => some { flags with swapGreed := value }
  | 'u' => some { flags with unicode := value }
  | 'R' => some { flags with anyLineEnd := value }
  | 'x' => some { flags with verbose := value }
  | _ => none

/-- Reads the letters of a group of flags up to the character that ends it, and what that character
and the text after it are. No letter stands twice, nor does the hyphen, after which flags are
unset and which some flag follows. -/
def readFlags? (flags : Flags) (seen : List Char) : List Char → Option (Flags × Char × List Char)
  | [] => none
  | c :: text =>
    if c = ':' ∨ c = ')' then
      if seen.head? = some '-' then none else some (flags, c, text)
    else if seen.contains c then none
    else if c = '-' then readFlags? flags (c :: seen) text
    else do
      let flags ← flags.set? c (!seen.contains '-')
      readFlags? flags (c :: seen) text

/-- The text behind blanks and comments. -/
def skipComments (inComment : Bool) : List Char → List Char
  | [] => []
  | c :: text =>
    if inComment then skipComments (c ≠ '\n') text
    else if Unicode.isBlank c then skipComments false text
    else if c = '#' then skipComments true text
    else c :: text

/-- The text behind what the flags leave out. -/
def Flags.skip (flags : Flags) (text : List Char) : List Char :=
  if flags.verbose then skipComments false text else text

/-- The expression of a character. -/
def Flags.char (flags : Flags) (c : Char) : Expr :=
  if flags.ignoreCase ∧ (flags.unicode ∨ c.toNat < 128) then
    let variants := (Unicode.caseVariants c).filter fun v => flags.unicode || v.toNat < 128
    if variants.length = 1 then .char c else .set (.unions (variants.map .single))
  else .char c

/-- Closes a set under the case of letters where the flags ask for it. -/
def Flags.fold (flags : Flags) (s : CharSet) : CharSet :=
  if !flags.ignoreCase then s else if flags.unicode then .folded s else .foldedAscii s

/-- Closes a set under the case of letters where the flags ask for it, and negates it. Without
Unicode it is a set of bytes, and must not hold any that are no characters by themselves. -/
def Flags.foldAndNegate? (flags : Flags) (negated : Bool) (s : CharSet) : Option CharSet :=
  let s := flags.fold s
  if flags.unicode then some (if negated then .compl s else s)
  else
    let s := if negated then .inter .bytes (.compl s) else s
    if s.isAsciiBytes then some s else none

end Retrace.Pattern
