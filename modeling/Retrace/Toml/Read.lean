import Retrace.Text.Utf8
import Retrace.Toml.Quoted
import Retrace.Toml.Scalar
import Retrace.Toml.Table

/-!
# Reading TOML documents

A document is a list of lines, each with a header, with a key and its value, or with neither.
Values may go on over several lines inside brackets and long texts. What a reader leaves is shorter
than what it was given, which makes the loops over keys, elements and lines end.

Values nest to a limited depth, and keys have a limited number of parts.
-/

namespace Retrace.Toml

/-! ### Blanks and comments -/

/-- The text behind blanks inside a line. -/
def skipSpaces (text : List Char) : List Char := text.dropWhile isSpace

/-- The text behind blanks, line ends and comments; `inComment` tells whether a comment goes on. -/
def skipLines (inComment : Bool) : List Char → List Char
  | [] => []
  | c :: text =>
    if c = '\n' then skipLines false text
    else if inComment then if isTextChar c then skipLines true text else c :: text
    else if isSpace c then skipLines false text
    else if c = '#' then skipLines true text
    else c :: text

/-- The text behind the rest of a line, on which only a comment may stand. -/
def lineEnd? (text : List Char) : Option (List Char) :=
  match skipSpaces text with
  | [] => some []
  | '\n' :: rest => some rest
  | '#' :: rest =>
    match rest.dropWhile isTextChar with
    | [] => some []
    | '\n' :: rest => some rest
    | _ => none
  | _ => none

/-- Blanks leave at most the text. -/
theorem skipSpaces_length_le (text : List Char) : (skipSpaces text).length ≤ text.length :=
  (List.dropWhile_suffix isSpace).length_le

/-- Blanks, line ends and comments leave at most the text. -/
theorem skipLines_length_le (inComment : Bool) (text : List Char) :
    (skipLines inComment text).length ≤ text.length := by
  fun_induction skipLines inComment text <;> simp_all <;> omega

/-- The rest of a line leaves at most the text. -/
theorem lineEnd?_length_le {text rest : List Char} (h : lineEnd? text = some rest) :
    rest.length ≤ text.length := by
  have spaces := skipSpaces_length_le text
  simp only [lineEnd?] at h
  split at h
  · simp_all
  · simp_all
    omega
  · rename_i after found
    have comment := (List.dropWhile_suffix (l := after) isTextChar).length_le
    split at h
    · cases h
      exact Nat.zero_le _
    · simp_all
      omega
    · cases h
  · simp at h

/-- What is left behind the blanks inside a line. -/
def afterSpaces {text : List Char} (rest : Rest text) : Rest text :=
  ⟨skipSpaces rest.val, Nat.lt_of_le_of_lt (skipSpaces_length_le rest.val) rest.property⟩

/-- What is left behind blanks, line ends and comments. -/
def afterLines {text : List Char} (rest : Rest text) : Rest text :=
  ⟨skipLines false rest.val, Nat.lt_of_le_of_lt (skipLines_length_le false rest.val) rest.property⟩

/-- Takes a character off the front. -/
def take? (c : Char) : (text : List Char) → Option (Rest text)
  | [] => none
  | first :: rest => if first = c then some (.tail first rest) else none

/-- Takes a character off the front of what is left. -/
def expect? (c : Char) {text : List Char} (rest : Rest text) : Option (Rest text) := do
  let (first, rest) ← rest.uncons?
  guard (first = c)
  return rest

/-! ### Keys -/

/-- The limit that the number of parts of a key, and the depth to which values nest, stay below. -/
def depthLimit : Nat := 80

/-- May the character stand in a key without quotes? -/
def isBareChar (c : Char) : Bool := c.isAlphanum || c = '-' || c = '_'

/-- Reads a part of a key. -/
def readPart : (text : List Char) → Option (String × Rest text)
  | [] => none
  | c :: text =>
    if c = '"' ∨ c = '\'' then Quoted.readLine c text
    else if isBareChar c then
      let others := text.takeWhile isBareChar
      some (String.ofList (c :: others), .tailDrop c others.length text)
    else none

/-- Reads a part of a key with the blanks around it. -/
def readSpacedPart (text : List Char) : Option (String × Rest text) :=
  (readPart (skipSpaces text)).map fun (part, rest) =>
    (part, afterSpaces (rest.ofShorter (skipSpaces_length_le text)))

/-- Reads the parts of a key, which have dots between them. -/
def readParts (text : List Char) : Option (List String × Rest text) :=
  match readSpacedPart text with
  | none => none
  | some (part, rest) =>
    match rest.uncons? with
    | some ('.', after) =>
      match readParts after.val with
      | none => none
      | some (parts, rest) => some (part :: parts, after.further rest)
    | _ => some ([part], rest)
termination_by text.length
decreasing_by exact after.property

/-- Reads a key: the parts before the last one, and the last one. -/
def readKey (text : List Char) : Option ((List String × String) × Rest text) := do
  let (parts, rest) ← readParts text
  guard (parts.length < depthLimit)
  let key ← parts.getLast?
  return ((parts.dropLast, key), rest)

/-- Reads a key with the equals sign and the blanks behind it. -/
def readAssignedKey (text : List Char) : Option ((List String × String) × Rest text) := do
  let (key, rest) ← readKey text
  return (key, afterSpaces (← expect? '=' rest))

/-! ### Values -/

/-- Reads a scalar. -/
def readScalar (text : List Char) : Option (Value × Rest text) :=
  let (scalar, rest) := Scalar.split text
  if h : rest.length < text.length then (Scalar.value? scalar).map (·, ⟨rest, h⟩) else none

/-- Reads a value without brackets and braces. -/
def readPlain : (text : List Char) → Option (Value × Rest text)
  | [] => none
  | c :: text =>
    if c = '"' ∨ c = '\'' then
      (Quoted.read c text).map fun (content, rest) => (.text content, rest)
    else readScalar (c :: text)

mutual

/-- Reads a value that nests to less than `depth`. -/
def readValue (depth : Nat) : (text : List Char) → Option (Value × Rest text)
  | '[' :: text =>
    match depth with
    | 0 => none
    | depth + 1 =>
      match readElements depth text with
      | none => none
      | some (elements, rest) => some (.list elements, rest.behind '[')
  | '\x7b' :: text =>
    match depth with
    | 0 => none
    | depth + 1 =>
      match take? '\x7d' (skipSpaces text) with
      | some rest =>
        some (.table .inline [], (rest.ofShorter (skipSpaces_length_le text)).behind '\x7b')
      | none =>
        match readPairs depth [] text with
        | none => none
        | some (entries, rest) => some (.table .inline entries, rest.behind '\x7b')
  | text => readPlain text
termination_by text => 2 * text.length

/-- Reads the elements of a list from one on, to the closing bracket, before which a comma may
stand. -/
def readElements (depth : Nat) (text : List Char) : Option (List Value × Rest text) :=
  have shorter := skipLines_length_le false text
  match take? ']' (skipLines false text) with
  | some rest => some ([], rest.ofShorter shorter)
  | none =>
    match readValue depth (skipLines false text) with
    | none => none
    | some (value, rest) =>
      match (afterLines (rest.ofShorter shorter)).uncons? with
      | some (']', rest) => some ([value], rest)
      | some (',', after) =>
        match readElements depth after.val with
        | none => none
        | some (values, rest) => some (value :: values, after.further rest)
      | _ => none
termination_by 2 * text.length + 1
decreasing_by
  · omega
  · have := after.property
    omega

/-- Reads the entries of a table in braces from one on, to the closing brace, and adds them to
`entries`. -/
def readPairs (depth : Nat) (entries : Entries) (text : List Char) : Option (Entries × Rest text) :=
  match readAssignedKey text with
  | none => none
  | some ((path, key), assigned) =>
    match readValue depth assigned.val with
    | none => none
    | some (value, rest) =>
      match addDotted path key value .inline entries with
      | none => none
      | some entries =>
        match (afterSpaces (assigned.further rest)).uncons? with
        | some ('\x7d', rest) => some (entries, rest)
        | some (',', after) =>
          match readPairs depth entries after.val with
          | none => none
          | some (entries, rest) => some (entries, after.further rest)
        | _ => none
termination_by 2 * text.length + 1
decreasing_by
  · have := assigned.property
    omega
  · have := after.property
    omega

end

/-! ### Documents -/

/-- Reads a header behind its opening bracket. -/
def readHeader : (text : List Char) → Option (Statement × Rest text)
  | '[' :: text => do
    let ((path, key), rest) ← readKey text
    return (.another path key, (← expect? ']' (← expect? ']' rest)).behind '[')
  | text => do
    let ((path, key), rest) ← readKey text
    return (.header path key, ← expect? ']' rest)

/-- Reads a key and its value. -/
def readEntry (text : List Char) : Option (Statement × Rest text) := do
  let ((path, key), assigned) ← readAssignedKey text
  let (value, rest) ← readValue (depthLimit - 1) assigned.val
  return (.entry path key value, assigned.further rest)

/-- Reads a statement. -/
def readStatement : (text : List Char) → Option (Statement × Rest text)
  | '[' :: text => (readHeader text).map fun (statement, rest) => (statement, rest.behind '[')
  | text => readEntry text

/-- Reads the statement on a line, and the rest of the line. -/
def readLine (text : List Char) : Option (Statement × Rest text) :=
  match readStatement text with
  | none => none
  | some (statement, rest) =>
    match h : lineEnd? rest.val with
    | none => none
    | some after =>
      some (statement, ⟨after, Nat.lt_of_le_of_lt (lineEnd?_length_le h) rest.property⟩)

/-- Reads the statements of a document. -/
def readStatements (text : List Char) : Option (List Statement) :=
  have _shorter := skipLines_length_le false text
  if (skipLines false text).isEmpty then some []
  else
    match readLine (skipLines false text) with
    | none => none
    | some (statement, ⟨rest, _h⟩) => (readStatements rest).map (statement :: ·)
termination_by text.length
decreasing_by exact Nat.lt_of_lt_of_le _h _shorter

/-- A text with each line end as one line feed. -/
def joinLineEnds : List Char → List Char
  | '\r' :: '\n' :: text => '\n' :: joinLineEnds text
  | c :: text => c :: joinLineEnds text
  | [] => []

/-- A text without the mark that may stand before the first character. -/
def dropMark : List Char → List Char
  | '\ufeff' :: text => text
  | text => text

/-- Reads a document. -/
def read (document : String) : Option Entries := do
  let statements ← readStatements (joinLineEnds (dropMark document.toList))
  build statements

end Retrace.Toml
