import Retrace.Text.Hexadecimal
import Retrace.Text.Utf8

/-!
# Percent encoding

A byte that may not stand in a part of a URL is written as a percent sign and two hexadecimal
digits. Which ASCII characters may not stand there depends on the part; controls and characters
beyond ASCII never may.
-/

namespace Retrace.Url

/-- An upper-case hexadecimal digit. -/
def upperHexDigit (n : Nat) : Char :=
  if n < 10 then Char.ofNat (48 + n) else Char.ofNat (55 + n)

/-- The written form of a byte. -/
def percentByte (byte : UInt8) : List Char :=
  ['%', upperHexDigit (byte.toNat / 16), upperHexDigit (byte.toNat % 16)]

/-- Writes out the characters that satisfy `isReserved`, the controls and all beyond ASCII. -/
def percentEncode (isReserved : Char → Bool) (text : List Char) : List Char :=
  text.flatMap fun c =>
    if c < ' ' || '\x7e' < c || isReserved c then (Text.Utf8.encode [c]).flatMap percentByte
    else [c]

/-- No further character is written out in an opaque path and in an opaque host. -/
def inOpaque (_ : Char) : Bool := false

/-- What is written out in a fragment. -/
def inFragment (c : Char) : Bool :=
  c = ' ' || c = '"' || c = '<' || c = '>' || c = '\x60'

/-- What is written out in a path. -/
def inPath (c : Char) : Bool :=
  inFragment c || c = '#' || c = '?' || c = '\x7b' || c = '\x7d'

/-- What is written out in the name of a user and in a password. -/
def inUserinfo (c : Char) : Bool :=
  inPath c || c = '/' || c = ':' || c = ';' || c = '=' || c = '@' || c = '[' || c = '\\' ||
    c = ']' || c = '^' || c = '|'

/-- What is written out in a query. -/
def inQuery (c : Char) : Bool :=
  c = ' ' || c = '"' || c = '#' || c = '<' || c = '>'

/-- What is written out in the query of a special URL. -/
def inSpecialQuery (c : Char) : Bool := inQuery c || c = '\''

/-- Reads written-out bytes back. A percent sign that two digits do not follow stands for itself. -/
def percentDecode : List UInt8 → List UInt8
  | 37 :: a :: b :: bytes =>
    match Hexadecimal.digit? a.toNat, Hexadecimal.digit? b.toNat with
    | some high, some low => UInt8.ofNat (high * 16 + low) :: percentDecode bytes
    | _, _ => 37 :: percentDecode (a :: b :: bytes)
  | byte :: bytes => byte :: percentDecode bytes
  | [] => []

end Retrace.Url
