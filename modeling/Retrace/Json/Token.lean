import Retrace.Json.Number
import Retrace.Rest
import Retrace.Text.Hexadecimal
import Retrace.Text.Utf8

/-!
# Tokens of JSON documents

A document is a list of bytes, read from left to right; what is wrong with it is decided by the
first problem met on the way. So the list of tokens does not fail: a lexeme that is begun and not
well formed is a token of its own, the last one, and says how a reader that wants its value and one
that skips it will judge it. The two differ. Skipping looks neither at the encoding of a text nor at
its surrogates, and takes the end of the input inside a number for a malformed number.

The main statement is `next_length_lt`: each token takes at least one byte.
-/

namespace Retrace.Json

/-- Why a document cannot be read. -/
inductive Fault where
  /-- The document is not well formed. -/
  | malformed
  /-- The document is well formed so far and not of the wanted shape. -/
  | mismatched
  /-- The document ends too early. -/
  | truncated
  deriving Repr, DecidableEq

/-- The category of a fault as messages name it. -/
def Fault.category : Fault → String
  | .malformed => "syntax"
  | .mismatched => "data"
  | .truncated => "eof"

/-- A token of a document. -/
inductive Token where
  /-- An opening bracket. -/
  | openList
  /-- A closing bracket. -/
  | closeList
  /-- An opening brace. -/
  | openRecord
  /-- A closing brace. -/
  | closeRecord
  /-- A comma. -/
  | comma
  /-- A colon. -/
  | colon
  /-- The word `null`. -/
  | null
  /-- A truth value. -/
  | bool (value : Bool)
  /-- A number. -/
  | number (value : Number)
  /-- A text between quotes; nothing when it has a lone surrogate or is not UTF-8. -/
  | text (content : Option String)
  /-- A lexeme that is not well formed, whether it begins as a text, and how readers that want it
  and readers that skip it judge it. -/
  | broken (isText : Bool) (wanted skipped : Fault)
  deriving Repr, DecidableEq

namespace Token

/-! ### Texts -/

/-- A piece of a text: a byte, or the code unit of an escape by number. -/
inductive Piece where
  /-- A byte that stands for itself, or the byte of a short escape. -/
  | byte (b : UInt8)
  /-- A UTF-16 code unit given by four hexadecimal digits. -/
  | unit (code : Nat)

/-- What follows an opening quote. -/
structure Scan where
  /-- The pieces before the end. -/
  pieces : List Piece
  /-- What ends the text, nothing when it is the closing quote. -/
  fault : Option Fault
  /-- The bytes after the closing quote. -/
  rest : List UInt8

/-- The value of a hexadecimal digit. -/
def hexDigit? (byte : UInt8) : Option Nat :=
  Hexadecimal.digit? byte.toNat

/-- The code unit of four hexadecimal digits. -/
def codeUnit? (a b c d : UInt8) : Option Nat := do
  return (((← hexDigit? a) * 16 + (← hexDigit? b)) * 16 + (← hexDigit? c)) * 16 + (← hexDigit? d)

/-- The byte that a letter after a backslash stands for. -/
def escape? (byte : UInt8) : Option UInt8 :=
  match Char.ofNat byte.toNat with
  | '"' => some 34
  | '\\' => some 92
  | '/' => some 47
  | 'b' => some 8
  | 'f' => some 12
  | 'n' => some 10
  | 'r' => some 13
  | 't' => some 9
  | _ => none

/-- A text that ends in a fault. -/
def Scan.failed (fault : Fault) : Scan := ⟨[], some fault, []⟩

/-- The text with one more piece before it. -/
def Scan.cons (piece : Piece) (scan : Scan) : Scan := { scan with pieces := piece :: scan.pieces }

/-- Reads a text behind its opening quote: 34 is the quote, 92 the backslash and 117 the letter
before a code unit. -/
def scanText : List UInt8 → Scan
  | [] => .failed .truncated
  | 34 :: rest => ⟨[], none, rest⟩
  | 92 :: 117 :: a :: b :: c :: d :: rest =>
    match codeUnit? a b c d with
    | some code => (scanText rest).cons (.unit code)
    | none => .failed .malformed
  -- Fewer than four bytes are left: the end comes before any of them is looked at.
  | 92 :: 117 :: _ => .failed .truncated
  | 92 :: letter :: rest =>
    match escape? letter with
    | some byte => (scanText rest).cons (.byte byte)
    | none => .failed .malformed
  | [92] => .failed .truncated
  | byte :: rest =>
    -- Controls must be escaped.
    if byte < 32 then .failed .malformed else (scanText rest).cons (.byte byte)

/-- The bytes of a text. A leading surrogate needs a trailing one right after it; where the text
ends instead, its end decides, and `fault` is that of the end. -/
def assemble (fault : Fault) : List Piece → Except Fault (List UInt8)
  | [] => .ok []
  | .byte b :: pieces => (assemble fault pieces).map (b :: ·)
  | .unit high :: pieces =>
    if 0xD800 ≤ high ∧ high < 0xDC00 then
      match pieces with
      | [] => .error fault
      | .byte _ :: _ => .error .malformed
      | .unit low :: pieces =>
        if 0xDC00 ≤ low ∧ low < 0xE000 then
          -- Two surrogates share the twenty bits of a code beyond the first plane.
          let c := Char.ofNat (0x10000 + (high - 0xD800) * 1024 + (low - 0xDC00))
          (assemble fault pieces).map (Text.Utf8.encode [c] ++ ·)
        else .error .malformed
    else if 0xDC00 ≤ high ∧ high < 0xE000 then .error .malformed
    else (assemble fault pieces).map (Text.Utf8.encode [Char.ofNat high] ++ ·)

/-- The content of a text, as a reader sees it that wants it. -/
def Scan.content (scan : Scan) : Except Fault String := do
  let bytes ← assemble (scan.fault.getD .malformed) scan.pieces
  match scan.fault with
  | some fault => throw fault
  | none =>
    match Text.Utf8.decode? bytes with
    | some content => return content
    | none => throw .malformed

/-- The token of a text. -/
def Scan.token (scan : Scan) : Token :=
  match scan.fault with
  | none => .text scan.content.toOption
  | some skipped =>
    match scan.content with
    | .ok _ => .broken true skipped skipped
    | .error wanted => .broken true wanted skipped

/-! ### Numbers -/

/-- Is the byte an ASCII digit? -/
def isDigit (byte : UInt8) : Bool := 48 ≤ byte && byte ≤ 57

/-- The digits at the front of a list, as numbers, and the bytes after them. -/
def digits (bytes : List UInt8) : List Nat × List UInt8 :=
  ((bytes.takeWhile isDigit).map fun b => b.toNat - 48, bytes.dropWhile isDigit)

/-- A number that lacks digits before `rest`. -/
def brokenNumber (rest : List UInt8) : Token :=
  .broken false (if rest.isEmpty then .truncated else .malformed) .malformed

/-- The sign of an exponent, whether it is a minus, and the bytes after it. -/
def exponentSign : List UInt8 → Bool × List UInt8
  | 43 :: rest => (false, rest)
  | 45 :: rest => (true, rest)
  | bytes => (false, bytes)

/-- Reads the exponent, if any, of a number whose other parts have been read. -/
def scanExponent (numeral : Numeral) : List UInt8 → Token × List UInt8
  | [] => (.number numeral.number, [])
  | e :: rest =>
    if e = 101 ∨ e = 69 then
      let (negative, rest) := exponentSign rest
      let (exponent, rest) := digits rest
      if exponent.isEmpty then (brokenNumber rest, [])
      else (.number { numeral with exponent := some (negative, exponent) }.number, rest)
    else (.number numeral.number, e :: rest)

/-- Reads the fraction and the exponent, if any, of a number whose whole digits have been read. -/
def scanFraction (numeral : Numeral) : List UInt8 → Token × List UInt8
  | 46 :: rest =>
    let (fraction, rest) := digits rest
    if fraction.isEmpty then (brokenNumber rest, [])
    else scanExponent { numeral with fraction := some fraction } rest
  | bytes => scanExponent numeral bytes

/-- Reads a number behind its sign. A zero is followed by no further whole digit. -/
def scanNumber (negative : Bool) (bytes : List UInt8) : Token × List UInt8 :=
  let (whole, rest) := digits bytes
  if whole.isEmpty then (brokenNumber rest, [])
  else if whole.head? = some 0 ∧ 1 < whole.length then (.broken false .malformed .malformed, [])
  else scanFraction ⟨negative, whole, none, none⟩ rest

/-! ### Words and the list of tokens -/

/-- Reads the rest of a word that stands for `token`. -/
def scanWord (token : Token) : List Char → List UInt8 → Token × List UInt8
  | [], bytes => (token, bytes)
  | _ :: _, [] => (.broken false .truncated .truncated, [])
  | c :: word, byte :: bytes =>
    if byte.toNat = c.toNat then scanWord token word bytes
    else (.broken false .malformed .malformed, [])

/-- Is the byte insignificant between tokens? -/
def isSpace (byte : UInt8) : Bool :=
  byte = 32 || byte = 10 || byte = 9 || byte = 13

/-- The first token of a list of bytes and the bytes after it. -/
def next (bytes : List UInt8) : Option (Token × List UInt8) :=
  match bytes.dropWhile isSpace with
  | [] => none
  | byte :: rest =>
    some <|
      match Char.ofNat byte.toNat with
      | '[' => (.openList, rest)
      | ']' => (.closeList, rest)
      | '\x7b' => (.openRecord, rest)
      | '\x7d' => (.closeRecord, rest)
      | ',' => (.comma, rest)
      | ':' => (.colon, rest)
      | '"' => ((scanText rest).token, (scanText rest).rest)
      | '-' => scanNumber true rest
      | 'n' => scanWord .null ['u', 'l', 'l'] rest
      | 't' => scanWord (.bool true) ['r', 'u', 'e'] rest
      | 'f' => scanWord (.bool false) ['a', 'l', 's', 'e'] rest
      | _ =>
        if isDigit byte then scanNumber false (byte :: rest)
        else (.broken false .malformed .malformed, [])

/-- A text leaves at most what followed its opening quote. -/
theorem scanText_rest_le (bytes : List UInt8) : (scanText bytes).rest.length ≤ bytes.length := by
  fun_induction scanText bytes <;> simp_all [Scan.failed, Scan.cons] <;> omega

/-- A word leaves at most what followed its first letter. -/
theorem scanWord_rest_le (token : Token) (word : List Char) (bytes : List UInt8) :
    (scanWord token word bytes).2.length ≤ bytes.length := by
  fun_induction scanWord token word bytes with
  | case1 => exact Nat.le_refl _
  | case2 => exact Nat.le_refl _
  | case3 _ _ _ _ _ ih => exact Nat.le_succ_of_le ih
  | case4 => exact Nat.zero_le _

/-- The digits at the front of a list leave at most the list. -/
theorem digits_rest_le (bytes : List UInt8) : (digits bytes).2.length ≤ bytes.length :=
  length_dropWhile_le isDigit bytes

/-- The sign of an exponent leaves at most what it was read from. -/
theorem exponentSign_rest_le (bytes : List UInt8) :
    (exponentSign bytes).2.length ≤ bytes.length := by
  fun_cases exponentSign bytes <;> simp

/-- An exponent leaves at most what it was read from. -/
theorem scanExponent_rest_le (numeral : Numeral) (bytes : List UInt8) :
    (scanExponent numeral bytes).2.length ≤ bytes.length := by
  cases bytes with
  | nil => simp [scanExponent]
  | cons e rest =>
    simp only [scanExponent]
    have sign := exponentSign_rest_le rest
    have exponent := digits_rest_le (exponentSign rest).2
    split
    · split
      · simp
      · simp only [List.length_cons]; omega
    · simp

/-- A fraction leaves at most what it was read from. -/
theorem scanFraction_rest_le (numeral : Numeral) (bytes : List UInt8) :
    (scanFraction numeral bytes).2.length ≤ bytes.length := by
  fun_cases scanFraction numeral bytes with
  | case1 => simp
  | case2 rest fraction left h empty =>
    have fractionLe : left.length ≤ rest.length := by
      simpa [h] using digits_rest_le rest
    have exponentLe := scanExponent_rest_le { numeral with fraction := some fraction } left
    simp only [List.length_cons]
    omega
  | case3 => exact scanExponent_rest_le numeral bytes

/-- A number leaves at most what it was read from. -/
theorem scanNumber_rest_le (negative : Bool) (bytes : List UInt8) :
    (scanNumber negative bytes).2.length ≤ bytes.length := by
  simp only [scanNumber]
  have wholeLe := digits_rest_le bytes
  split
  · simp
  · split
    · simp
    · have := scanFraction_rest_le ⟨negative, (digits bytes).1, none, none⟩ (digits bytes).2
      omega

/-- Numbers that begin with a digit take it. -/
theorem scanNumber_cons_rest_le {byte : UInt8} (h : isDigit byte = true) (bytes : List UInt8) :
    (scanNumber false (byte :: bytes)).2.length ≤ bytes.length := by
  have whole : (digits (byte :: bytes)).2.length ≤ bytes.length := by
    simpa [digits, List.dropWhile_cons, h] using length_dropWhile_le isDigit bytes
  simp only [scanNumber]
  split
  · simp
  · split
    · simp
    · have := scanFraction_rest_le ⟨false, (digits (byte :: bytes)).1, none, none⟩
        (digits (byte :: bytes)).2
      omega

/-- Each token takes at least one byte. -/
theorem next_length_lt {bytes rest : List UInt8} {token : Token}
    (h : next bytes = some (token, rest)) : rest.length < bytes.length := by
  simp only [next] at h
  have spaces := length_dropWhile_le isSpace bytes
  cases front : bytes.dropWhile isSpace with
  | nil => simp [front] at h
  | cons byte after =>
    simp only [front, List.length_cons, Option.some.injEq] at h spaces
    suffices rest.length ≤ after.length by omega
    have left := congrArg (·.2.length) h
    simp only at left
    rw [← left]
    split
    any_goals exact Nat.le_refl _
    · exact scanText_rest_le after
    · exact scanNumber_rest_le true after
    · exact scanWord_rest_le _ _ after
    · exact scanWord_rest_le _ _ after
    · exact scanWord_rest_le _ _ after
    · split
      · exact scanNumber_cons_rest_le ‹_› after
      · simp

end Token

/-- The tokens of a document. Nothing follows one that is not well formed. -/
def tokens (bytes : List UInt8) : List Token :=
  match _h : Token.next bytes with
  | none => []
  | some (token, rest) => token :: tokens rest
termination_by bytes.length
decreasing_by exact Token.next_length_lt _h

end Retrace.Json
