/-!
# Numerals of JSON documents

A numeral has whole digits and may have a sign, a fraction and an exponent. Readers want natural
numbers of at most 64 bits; all that they need to know of any other numeral is whether it stays
finite when it is rounded to a double, because one that does not is no number at all.

A numeral's magnitude is a significand of at most 64 bits times a power of ten. Whole digits beyond
the significand raise the power, fraction digits beyond it are dropped.
-/

namespace Retrace.Json

/-- A numeral as it is written, its digits as numbers. -/
structure Numeral where
  /-- Is there a minus sign? -/
  negative : Bool
  /-- The digits before the point. -/
  whole : List Nat
  /-- The digits after the point, when there is one. -/
  fraction : Option (List Nat)
  /-- Is there a minus sign before the exponent, and its digits, when there is one. -/
  exponent : Option (Bool × List Nat)

/-- What a reader needs to know of a numeral. -/
inductive Number where
  /-- A natural number of at most 64 bits, written without point, exponent and sign. -/
  | natural (value : Nat)
  /-- Any other finite number. -/
  | other
  /-- A number beyond all doubles. -/
  | infinite
  deriving Repr, DecidableEq

namespace Numeral

/-- The bound of a significand. -/
def significandBound : Nat := UInt64.size

/-- Continues a significand with whole digits, counting those that it cannot take. -/
def addWhole (significand : Nat) : List Nat → Nat × Nat
  | [] => (significand, 0)
  | digit :: digits =>
    let next := significand * 10 + digit
    if next < significandBound then addWhole next digits
    else (significand, digits.length + 1)

/-- Continues a significand with fraction digits, counting those that it takes. -/
def addFraction (significand : Nat) : List Nat → Nat × Nat
  | [] => (significand, 0)
  | digit :: digits =>
    let next := significand * 10 + digit
    if next < significandBound then
      let (result, taken) := addFraction next digits
      (result, taken + 1)
    else (significand, 0)

/-- The natural number nearest to `n` of those that a double can hold: 53 bits and zeros after
them. A tie goes to the even neighbour. -/
def nearestDouble (n : Nat) : Nat :=
  let unit := Nat.pow 2 (n.log2 - 52)
  let quotient := n / unit
  let remainder := n % unit
  if unit < 2 * remainder ∨ (unit = 2 * remainder ∧ quotient % 2 = 1) then (quotient + 1) * unit
  else quotient * unit

/-- Does the product of a significand and a power of ten, both rounded to doubles, lie beyond all
doubles? No power of ten beyond the 308th is a double. -/
def isInfinite (significand : Nat) (power : Int) : Bool :=
  if significand = 0 ∨ power < 0 then false
  else if 308 < power then true
  else
    Nat.pow 2 1024 - Nat.pow 2 970 ≤
      nearestDouble significand * nearestDouble (Nat.pow 10 power.toNat)

/-- The natural number that digits stand for. -/
def valueOf (digits : List Nat) : Nat :=
  digits.foldl (fun acc digit => acc * 10 + digit) 0

/-- What a reader needs to know of the numeral. An exponent beyond 32 bits makes every magnitude
but zero infinite, or zero when it is negative. -/
def number (n : Numeral) : Number :=
  let value := valueOf n.whole
  if !n.negative ∧ n.fraction.isNone ∧ n.exponent.isNone ∧ value < significandBound then
    .natural value
  else
    let (whole, raised) := addWhole 0 n.whole
    let (significand, lowered) := addFraction whole (n.fraction.getD [])
    let power : Int := (raised : Int) - lowered
    let infinite :=
      match n.exponent with
      | none => isInfinite significand power
      | some (negative, digits) =>
        let exponent := valueOf digits
        if UInt32.size / 2 ≤ exponent then significand ≠ 0 ∧ !negative
        else isInfinite significand (if negative then power - exponent else power + exponent)
    if infinite then .infinite else .other

end Numeral

end Retrace.Json
