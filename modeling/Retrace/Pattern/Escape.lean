import Retrace.Pattern.Flags
import Retrace.Text.Hexadecimal

/-!
# Escapes in patterns

What a backslash and the text behind it stand for: a character, a set of characters or an assertion.
Texts are read behind the backslash, and the text behind the escape is given back.
-/

namespace Retrace.Pattern

/-- The parts of a pattern without parts of their own. -/
inductive Primitive where
  /-- A character. -/
  | char (c : Char)
  /-- A byte beyond ASCII, as the character of the same code. -/
  | byte (c : Char)
  /-- A set of characters. -/
  | set (s : CharSet)
  /-- An assertion. -/
  | look (a : Assertion)

/-- Is the character one that means something in patterns, so that it may be escaped? -/
def isMeta (c : Char) : Bool :=
  "\\.+*?()|[]\x7b\x7d^$#&-~".toList.contains c

/-- May the character be escaped to stand for itself? -/
def isEscapable (c : Char) : Bool :=
  isMeta c || (c.toNat < 128 && !c.isAlphanum && c ≠ '<' && c ≠ '>')

/-- The character of a code. -/
def charOf? (code : Nat) : Option Char :=
  if code.isValidChar then some (Char.ofNat code) else none

/-- Reads a code of a fixed number of hexadecimal digits. -/
def readHexDigits? (flags : Flags) (code : Nat) : Nat → List Char → Option (Char × List Char)
  | 0, text => (charOf? code).map (·, text)
  | _ + 1, [] => none
  | count + 1, c :: text => do
    let digit ← Hexadecimal.digit? c.toNat
    readHexDigits? flags (code * 16 + digit) count (if count = 0 then text else flags.skip text)

/-- Reads the text between braces, up to the closing one. -/
def readBraced? (flags : Flags) (text : List Char) : Option (List Char × List Char) :=
  match text.dropWhile (· ≠ '\x7d') with
  | [] => none
  | _ :: rest =>
    let content := text.takeWhile (· ≠ '\x7d')
    some (if flags.verbose then content.filter (!Unicode.isBlank ·) else content, rest)

/-- Reads a code behind its letter. -/
def readHex? (flags : Flags) (digits : Nat) (text : List Char) : Option (Char × List Char) :=
  match flags.skip text with
  | '\x7b' :: text => do
    let (content, rest) ← readBraced? flags text
    guard (!content.isEmpty)
    let code ← Hexadecimal.value? content
    return (← charOf? code, rest)
  | text => readHexDigits? flags 0 digits text

/-- What two digits or a code in braces stand for. Without Unicode the two digits are a byte. -/
def readHexByte? (flags : Flags) (text : List Char) : Option (Primitive × List Char) :=
  let isBraced := (flags.skip text).head? = some '\x7b'
  (readHex? flags 2 text).map fun (c, rest) =>
    (if flags.unicode ∨ isBraced ∨ c.toNat < 128 then .char c else .byte c, rest)

/-- The set of a property by its written name. An equals sign or a colon stands between the name of
the general category and its value, an exclamation mark before the equals sign negates it. -/
def propertyOf? (flags : Flags) (negated : Bool) (name : List Char) : Option CharSet := do
  guard flags.unicode
  let valued (category value : List Char) : Option CharSet := do
    guard (["gc", "generalcategory"].contains (Unicode.looseName category))
    CharSet.property? (Unicode.looseName value)
  match name.dropWhile fun c => c ≠ '=' ∧ c ≠ ':' with
  | [] => flags.foldAndNegate? negated (← CharSet.property? (Unicode.looseName name))
  | _ :: value =>
    let category := name.takeWhile fun c => c ≠ '=' ∧ c ≠ ':'
    if category.getLast? = some '!' then
      flags.foldAndNegate? (!negated) (← valued category.dropLast value)
    else flags.foldAndNegate? negated (← valued category value)

/-- Reads a property behind its letter. -/
def readProperty? (flags : Flags) (negated : Bool) (text : List Char) :
    Option (CharSet × List Char) :=
  match flags.skip text with
  | [] => none
  | '\x7b' :: text => do
    let (name, rest) ← readBraced? flags text
    return (← propertyOf? flags negated name, rest)
  | c :: rest => do
    guard (c ≠ '\\')
    return (← propertyOf? flags negated [c], rest)

/-- The set of a letter for digits, blanks or word characters. -/
def shorthand? (flags : Flags) (letter : Char) : Option CharSet :=
  match letter with
  | 'd' => some (if flags.unicode then .category "nd" else .asciiDigits)
  | 's' => some (if flags.unicode then .blank else .asciiBlank)
  | 'w' => some (if flags.unicode then .word else .asciiWord)
  | 'D' => if flags.unicode then some (.compl (.category "nd")) else none
  | 'S' => if flags.unicode then some (.compl .blank) else none
  | 'W' => if flags.unicode then some (.compl .word) else none
  | _ => none

/-- The assertion of a word in braces behind a boundary. -/
def namedBoundary? (ascii : Bool) (name : String) : Option Assertion :=
  match name with
  | "start" => some (.wordStart ascii)
  | "end" => some (.wordEnd ascii)
  | "start-half" => some (.noWordBefore ascii)
  | "end-half" => some (.noWordAfter ascii)
  | _ => none

/-- Reads what follows the letter of a word boundary. A brace that a number follows belongs to a
repetition. -/
def readBoundary? (flags : Flags) (text : List Char) : Option (Assertion × List Char) :=
  match text with
  | '\x7b' :: content =>
    match flags.skip content with
    | [] => none
    | c :: _ =>
      if c.isAlpha ∨ c = '-' then do
        let (name, rest) ← readBraced? flags content
        return (← namedBoundary? (!flags.unicode) (String.ofList name), rest)
      else some (.boundary (!flags.unicode), text)
  | _ => some (.boundary (!flags.unicode), text)

/-- Reads an escape. -/
def readEscape? (flags : Flags) : List Char → Option (Primitive × List Char)
  | [] => none
  | c :: text =>
    match c with
    | 'x' => readHexByte? flags text
    | 'u' => (readHex? flags 4 text).map fun (c, rest) => (.char c, rest)
    | 'U' => (readHex? flags 8 text).map fun (c, rest) => (.char c, rest)
    | 'p' => (readProperty? flags false text).map fun (s, rest) => (.set s, rest)
    | 'P' => (readProperty? flags true text).map fun (s, rest) => (.set s, rest)
    | 'd' | 's' | 'w' | 'D' | 'S' | 'W' =>
      (shorthand? flags c).map fun s => (.set s, text)
    | 'a' => some (.char '\x07', text)
    | 'f' => some (.char '\x0c', text)
    | 't' => some (.char '\t', text)
    | 'n' => some (.char '\n', text)
    | 'r' => some (.char '\r', text)
    | 'v' => some (.char '\x0b', text)
    | 'A' => some (.look .textStart, text)
    | 'z' => some (.look .textEnd, text)
    | 'b' => (readBoundary? flags text).map fun (a, rest) => (.look a, rest)
    | 'B' => some (.look (.notBoundary (!flags.unicode)), text)
    | '<' => some (.look (.wordStart (!flags.unicode)), text)
    | '>' => some (.look (.wordEnd (!flags.unicode)), text)
    | _ => if isEscapable c then some (.char c, text) else none

end Retrace.Pattern
