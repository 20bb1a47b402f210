import Retrace.Text.Utf8

/-!
# Base64

The alphabet of sixty-four digits, and bytes written in it: three bytes as four digits, a shorter
last group filled up with `=`. Reading is strict. The padding must be there, and the bits of the
last digit that no byte needs must be zero, so each list of bytes has one written form.

What is wrong with a payload is reported by the first offset at which it shows. A payload whose
length is one above a multiple of four is the exception: a last byte outside the alphabet, most
often a stray line end, is reported before everything else.
-/

namespace Retrace.Base64

/-- The value of a digit, given by its code. -/
def value? (code : Nat) : Option Nat :=
  if 65 ≤ code ∧ code ≤ 90 then some (code - 65)
  else if 97 ≤ code ∧ code ≤ 122 then some (code - 71)
  else if 48 ≤ code ∧ code ≤ 57 then some (code + 4)
  else if code = 43 then some 62
  else if code = 47 then some 63
  else none

/-- The code of the digit of a value below 64. -/
def code (value : Nat) : Nat :=
  if value < 26 then value + 65
  else if value < 52 then value + 71
  else if value < 62 then value - 4
  else if value = 62 then 43
  else 47

/-- The code of the padding. -/
def padding : UInt8 := 61

/-- Why a payload is not the written form of any bytes. -/
inductive Fault where
  /-- A byte outside the alphabet, or padding where none belongs. -/
  | badSymbol (byte : UInt8) (offset : Nat)
  /-- A last group of a single digit. -/
  | badLength (length : Nat)
  /-- A last digit with bits that no byte needs. -/
  | badLastSymbol (byte : UInt8) (offset : Nat)
  /-- A last group with too little padding. -/
  | badPadding
  deriving Repr, DecidableEq

/-- What a message says of a fault. -/
def Fault.message : Fault → String
  | .badSymbol byte offset => s!"Invalid symbol {byte.toNat}, offset {offset}."
  | .badLength length => s!"Invalid input length: {length}"
  | .badLastSymbol byte offset => s!"Invalid last symbol {byte.toNat}, offset {offset}."
  | .badPadding => "Invalid padding"

/-- The value of the digit at `offset`. -/
def symbol (byte : UInt8) (offset : Nat) : Except Fault Nat :=
  match value? byte.toNat with
  | some value => .ok value
  | none => .error (.badSymbol byte offset)

/-- The three bytes of four digits. -/
def bytesOf (a b c d : Nat) : List UInt8 :=
  [UInt8.ofNat (a * 4 + b / 16), UInt8.ofNat (b % 16 * 16 + c / 4), UInt8.ofNat (c % 4 * 64 + d)]

/-- The digits of the last group, read on from `digits`, when the padding, if any, began at the
offset `padded`. The group's first byte stands at `offset`. -/
def lastDigits (offset : Nat) (digits : List Nat) (padded : Option Nat) :
    List UInt8 → Except Fault (List Nat)
  | [] => .ok digits
  | byte :: bytes =>
    match padded with
    | some first =>
      if byte = padding then lastDigits offset digits padded bytes
      else .error (.badSymbol padding first)
    | none =>
      if byte = padding then
        if digits.length < 2 then .error (.badSymbol padding (offset + digits.length))
        else lastDigits offset digits (some (offset + digits.length)) bytes
      else do
        let value ← symbol byte (offset + digits.length)
        lastDigits offset (digits ++ [value]) none bytes

/-- The bytes of the last group, of at most four bytes, which stands at `offset`. -/
def decodeLast (offset : Nat) (group : List UInt8) : Except Fault (List UInt8) := do
  match ← lastDigits offset [] none group with
  | [] => return []
  | [_] => throw (.badLength (offset + 1))
  | digits =>
    if group.length ≠ 4 then throw .badPadding
    match digits with
    | [a, b] =>
      if b % 16 ≠ 0 then throw (.badLastSymbol (UInt8.ofNat (code b)) (offset + 1))
      return (bytesOf a b 0 0).take 1
    | [a, b, c] =>
      if c % 4 ≠ 0 then throw (.badLastSymbol (UInt8.ofNat (code c)) (offset + 2))
      return (bytesOf a b c 0).take 2
    | [a, b, c, d] => return bytesOf a b c d
    | _ => return []

/-- The bytes of the groups from `offset` on. -/
def decodeFrom (offset : Nat) : List UInt8 → Except Fault (List UInt8)
  -- A group that another byte follows is complete and has no padding.
  | a :: b :: c :: d :: next :: rest => do
    let a ← symbol a offset
    let b ← symbol b (offset + 1)
    let c ← symbol c (offset + 2)
    let d ← symbol d (offset + 3)
    return bytesOf a b c d ++ (← decodeFrom (offset + 4) (next :: rest))
  | group => decodeLast offset group

/-- The bytes that a payload is the written form of. -/
def decode (payload : List UInt8) : Except Fault (List UInt8) :=
  match payload.getLast? with
  | some last =>
    -- The last byte is judged before the groups in front of it.
    if payload.length % 4 = 1 ∧ last ≠ padding ∧ (value? last.toNat).isNone then
      .error (.badSymbol last (payload.length - 1))
    else decodeFrom 0 payload
  | none => .ok []

/-- The written form of bytes. -/
def encode : List UInt8 → List Char
  | [] => []
  | [a] => digits [a.toNat / 4, a.toNat % 4 * 16] ++ ['=', '=']
  | [a, b] => digits [a.toNat / 4, a.toNat % 4 * 16 + b.toNat / 16, b.toNat % 16 * 4] ++ ['=']
  | a :: b :: c :: rest =>
    digits [a.toNat / 4, a.toNat % 4 * 16 + b.toNat / 16, b.toNat % 16 * 4 + c.toNat / 64,
      c.toNat % 64] ++ encode rest
where
  /-- The digits of values. -/
  digits (values : List Nat) : List Char := values.map fun value => Char.ofNat (code value)

end Retrace.Base64
