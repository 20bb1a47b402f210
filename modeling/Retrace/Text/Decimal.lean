/-!
# Decimal numbers

Natural numbers written in ASCII digits, read under a bound: a coordinate fits 32 bits, a port 16.
A field that a person writes may start with a plus sign; a coordinate inside a stack frame may not.
-/

namespace Retrace.Decimal

/-- The number that a list of ASCII digits stands for, read on from `acc`; nothing on any other
character. -/
def value? (acc : Nat) : List Char → Option Nat
  | [] => some acc
  | c :: cs => if c.isDigit then value? (acc * 10 + (c.toNat - 48)) cs else none

/-- Reads a non-empty list of ASCII digits as a number below `bound`. -/
def digits? (bound : Nat) (text : List Char) : Option Nat :=
  if text.isEmpty then none else (value? 0 text).filter (· < bound)

/-- Reads digits after an optional plus sign as a number below `bound`. -/
def signed? (bound : Nat) : List Char → Option Nat
  | '+' :: text => digits? bound text
  | text => digits? bound text

end Retrace.Decimal
