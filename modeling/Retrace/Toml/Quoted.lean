import Retrace.Rest
import Retrace.Text.Hexadecimal

/-!
# Quoted texts of TOML documents

A text stands between quotes or apostrophes, on one line, or between three of either, on any number
of lines. Backslashes escape between quotes and stand for themselves between apostrophes. Line ends
are line feeds here.

The main statements say that a text takes at least its opening quote.
-/

namespace Retrace.Toml

/-- Is the character a blank inside a line? -/
def isSpace (c : Char) : Bool := c = ' ' || c = '\t'

/-- May the character stand in a line of a text or of a comment? -/
def isTextChar (c : Char) : Bool := c = '\t' || (' ' ≤ c && c ≠ '\x7f')

namespace Quoted

/-! ### Escapes -/

/-- The character that a letter behind a backslash stands for. -/
def letter? : Char → Option Char
  | 'b' => some '\x08'
  | 't' => some '\t'
  | 'n' => some '\n'
  | 'f' => some '\x0c'
  | 'r' => some '\r'
  | '"' => some '"'
  | '\\' => some '\\'
  | _ => none

/-- Reads a character whose code is given by `count` hexadecimal digits behind a letter. -/
def coded? (count : Nat) (letter : Char) (text : List Char) :
    Option (Char × Rest (letter :: text)) := do
  guard (count ≤ text.length)
  let code ← Hexadecimal.value? (text.take count)
  guard code.isValidChar
  return (Char.ofNat code, .tailDrop letter count text)

/-- Reads an escape behind its backslash. -/
def escape? : (text : List Char) → Option (Char × Rest text)
  | 'u' :: rest => coded? 4 'u' rest
  | 'U' :: rest => coded? 8 'U' rest
  | c :: rest => (letter? c).map (·, .tail c rest)
  | [] => none

/-- What follows a backslash at the end of a line, blanks and further line ends left out. -/
def continued? (text : List Char) : Option (Rest text) :=
  match h : text.dropWhile isSpace with
  | '\n' :: rest =>
    some ⟨rest.dropWhile fun c => isSpace c || c = '\n', by
      have := length_dropWhile_le isSpace text
      have := length_dropWhile_le (fun c => isSpace c || c = '\n') rest
      simp only [h, List.length_cons] at *
      omega⟩
  | _ => none

/-- The text that escapes and continued lines stand for. -/
def unescape : List Char → Option (List Char)
  | [] => some []
  | '\\' :: text =>
    match continued? text with
    | some ⟨rest, _⟩ => unescape rest
    | none =>
      match escape? text with
      | some (c, ⟨rest, _⟩) => (unescape rest).map (c :: ·)
      | none => none
  | c :: text => (unescape text).map (c :: ·)
termination_by text => text.length

/-! ### Ends of texts -/

/-- Splits a text on one line at its closing quote. A character behind a backslash, which `escaped`
tells, ends no text. -/
def splitLine (quote : Char) (escaped : Bool) : List Char → Option (List Char × List Char)
  | [] => none
  | c :: text =>
    if !isTextChar c then none
    else if !escaped && c = quote then some ([], text)
    else
      let escaping := !escaped && c = '\\' && quote = '"'
      (splitLine quote escaping text).map fun (raw, rest) => (c :: raw, rest)

/-- How many quotes of a run that ends a text on several lines belong to the text. -/
def trailingQuotes (run : Nat) : Nat := min (run - 3) 2

/-- Splits a text on several lines at its three closing quotes. Up to two quotes may stand in the
text, also right before the closing ones. -/
def splitBlock (quote : Char) (escaped : Bool) : List Char → Option (List Char × List Char)
  | [] => none
  | c :: text =>
    let run := ((c :: text).takeWhile (· = quote)).length
    if !isTextChar c && c ≠ '\n' then none
    else if !escaped && 3 ≤ run then
      let kept := trailingQuotes run
      some (List.replicate kept quote, text.drop (2 + kept))
    else
      let escaping := !escaped && c = '\\' && quote = '"'
      (splitBlock quote escaping text).map fun (raw, rest) => (c :: raw, rest)

/-- A text on one line leaves at most what followed its opening quote. -/
theorem splitLine_length_le {quote : Char} {escaped : Bool} {text raw rest : List Char}
    (h : splitLine quote escaped text = some (raw, rest)) : rest.length ≤ text.length := by
  fun_induction splitLine quote escaped text generalizing raw rest with
  | case1 => simp at h
  | case2 => simp at h
  | case3 =>
    simp only [Option.some.injEq, Prod.mk.injEq] at h
    simp [← h.2]
  | case4 =>
    rename_i ih
    obtain ⟨⟨raw', rest'⟩, found, same⟩ := Option.map_eq_some_iff.1 h
    simp only [Prod.mk.injEq] at same
    have := ih found
    simp only [List.length_cons, ← same.2]
    omega

/-- A text on several lines leaves at most what followed its opening quotes. -/
theorem splitBlock_length_le {quote : Char} {escaped : Bool} {text raw rest : List Char}
    (h : splitBlock quote escaped text = some (raw, rest)) : rest.length ≤ text.length := by
  fun_induction splitBlock quote escaped text generalizing raw rest with
  | case1 => simp at h
  | case2 => simp at h
  | case3 =>
    simp only [Option.some.injEq, Prod.mk.injEq] at h
    simp only [← h.2, List.length_drop, List.length_cons]
    omega
  | case4 =>
    rename_i ih
    obtain ⟨⟨raw', rest'⟩, found, same⟩ := Option.map_eq_some_iff.1 h
    simp only [Prod.mk.injEq] at same
    have := ih found
    simp only [List.length_cons, ← same.2]
    omega

/-! ### Texts -/

/-- The content of a raw text: between apostrophes it is what is written. -/
def content? (quote : Char) (raw : List Char) : Option String :=
  (if quote = '"' then unescape raw else some raw).map String.ofList

/-- Reads a text on one line behind its opening quote. -/
def readLine (quote : Char) (text : List Char) : Option (String × Rest (quote :: text)) :=
  match h : splitLine quote false text with
  | none => none
  | some (raw, rest) =>
    (content? quote raw).map (·, ⟨rest, Nat.lt_succ_of_le (splitLine_length_le h)⟩)

/-- Reads a text on several lines behind its opening quotes. A line end right behind them does not
belong to it. -/
def readBlock (quote : Char) (text : List Char) : Option (String × Rest (quote :: text)) :=
  match text with
  | '\n' :: text =>
    match h : splitBlock quote false text with
    | none => none
    | some (raw, rest) =>
      (content? quote raw).map (·, ⟨rest, by
        have := splitBlock_length_le h
        simp only [List.length_cons]
        omega⟩)
  | text =>
    match h : splitBlock quote false text with
    | none => none
    | some (raw, rest) =>
      (content? quote raw).map (·, ⟨rest, Nat.lt_succ_of_le (splitBlock_length_le h)⟩)

/-- Reads a text of either kind behind its first quote. -/
def read (quote : Char) (text : List Char) : Option (String × Rest (quote :: text)) :=
  match text with
  | a :: b :: text =>
    if a = quote ∧ b = quote then
      (readBlock quote text).map fun (content, ⟨rest, h⟩) =>
        (content, ⟨rest, by simp only [List.length_cons] at *; omega⟩)
    else readLine quote (a :: b :: text)
  | text => readLine quote text

end Quoted

end Retrace.Toml
