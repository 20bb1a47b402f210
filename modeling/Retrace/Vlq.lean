import Retrace.Base64

/-!
# Base64 variable-length quantities

A signed number is written as a group of base64 digits, the least significant first. Each digit
carries five bits of the number and, in its sixth bit, whether the group goes on. Of the bits
put together the lowest is the sign. A segment is a run of such groups without separators; its
numbers have 32 bits, which need at most seven digits.

A character outside the alphabet is reported by its first byte, which for a character beyond ASCII
is not the character itself.
-/

namespace Retrace.Vlq

/-- Why a segment is not a run of numbers. -/
inductive Fault where
  /-- A byte outside the base64 alphabet. -/
  | badByte (byte : UInt8)
  /-- A group of more than seven digits, or one whose number does not fit 32 bits. -/
  | overflow
  /-- The segment ends inside a group. -/
  | unterminated
  deriving Repr, DecidableEq

/-- The value of a base64 digit. -/
def digit? (c : Char) : Option Nat :=
  Base64.value? c.toNat

/-- The base64 digit of a value below 64. -/
def digitChar (value : Nat) : Char :=
  Char.ofNat (Base64.code value)

/-- The number of a finished group from its bits: the lowest bit is the sign, the others the
magnitude. A number that does not fit 32 bits is none. -/
def number? (bits : Nat) : Option Int32 :=
  let magnitude : Int := bits / 2
  let number := if bits % 2 = 1 then -magnitude else magnitude
  if Int32.minValue.toInt ≤ number ∧ number ≤ Int32.maxValue.toInt then some (Int32.ofInt number)
  else none

/-- Reads the rest of a segment in which `count` digits of the current group have been read and
put together to `bits`. -/
def readFrom (bits count : Nat) : List Char → Except Fault (List Int32)
  | [] => if count = 0 then .ok [] else .error .unterminated
  | c :: rest =>
    match digit? c with
    | none => .error (.badByte (Text.Utf8.firstByte c))
    | some digit =>
      let bits := bits + digit % 32 * Nat.pow 32 count
      if 32 ≤ digit then
        -- The seventh digit of a group is its last.
        if 6 ≤ count then .error .overflow else readFrom bits (count + 1) rest
      else
        match number? bits with
        | none => .error .overflow
        | some number => (readFrom 0 0 rest).map (number :: ·)

/-- The numbers of a segment. -/
def read (segment : List Char) : Except Fault (List Int32) :=
  readFrom 0 0 segment

/-- The bits of a number: twice the magnitude, plus one for a negative number. -/
def bitsOf (number : Int32) : Nat :=
  let n := number.toInt
  if n < 0 then 2 * n.natAbs + 1 else 2 * n.natAbs

/-- The digits of a group, all but the last marked as going on. -/
def writeBits (bits : Nat) : List Char :=
  if bits < 32 then [digitChar bits]
  else digitChar (bits % 32 + 32) :: writeBits (bits / 32)
termination_by bits
decreasing_by omega

/-- The shortest group that stands for a number. -/
def writeNumber (number : Int32) : List Char :=
  writeBits (bitsOf number)

/-- The segment of a list of numbers. -/
def write (numbers : List Int32) : List Char :=
  numbers.flatMap writeNumber

end Retrace.Vlq
