import Retrace.Text.Decimal
import Retrace.Text.Hexadecimal
import Retrace.Toml.Value

/-!
# Scalars of TOML documents

The values without quotes and brackets: whole numbers, floats, truth values, dates and times. Single
underscores may stand between digits. Of a scalar that settings make no use of it only matters that
it is well formed.
-/

namespace Retrace.Toml.Scalar

/-- Are there digits that satisfy `p`, with single underscores between them at most? -/
def isGrouped (p : Char → Bool) (text : List Char) : Bool :=
  (text.splitOn '_').all fun group => !group.isEmpty && group.all p

/-- The digits without the underscores between them. -/
def ungroup (text : List Char) : List Char :=
  text.filter (· ≠ '_')

/-- Splits off a sign: is it a minus, and what follows. -/
def splitSign : List Char → Bool × List Char
  | '-' :: text => (true, text)
  | '+' :: text => (false, text)
  | text => (false, text)

/-- Are these the digits of a whole number? A zero stands alone. -/
def isWhole (text : List Char) : Bool :=
  isGrouped Char.isDigit text && (text.head? ≠ some '0' || text = ['0'])

/-! ### Whole numbers -/

/-- The bound of whole numbers. -/
def integerBound : Nat := UInt64.size / 2

/-- The number that digits of a base stand for. -/
def valueIn (base : Nat) (digits : List Char) : Nat :=
  digits.foldl (fun acc c => acc * base + (Hexadecimal.digit? c.toNat).getD 0) 0

/-- Reads a number of a base behind its prefix. -/
def based? (base : Nat) (text : List Char) : Option Int := do
  guard (isGrouped (fun c => (Hexadecimal.digit? c.toNat).any (· < base)) text)
  let value := valueIn base (ungroup text)
  guard (value < integerBound)
  return value

/-- Reads a decimal number. -/
def decimal? (text : List Char) : Option Int := do
  let (negative, digits) := splitSign text
  guard (isWhole digits)
  let magnitude := valueIn 10 (ungroup digits)
  let value : Int := if negative then -magnitude else magnitude
  guard (-integerBound ≤ value ∧ value < integerBound)
  return value

/-- Reads a whole number. -/
def integer? : List Char → Option Int
  | '0' :: 'x' :: text => based? 16 text
  | '0' :: 'o' :: text => based? 8 text
  | '0' :: 'b' :: text => based? 2 text
  | text => decimal? text

/-! ### Floats -/

/-- Does a decimal significand times a power of ten round to a double below infinity? Powers that
decide by themselves are not worked out. -/
def isFinite (digits : List Char) (power : Int) : Bool :=
  let significand := valueIn 10 digits
  let scale := power + digits.length
  if significand = 0 ∨ scale < 300 then true
  else if 400 + digits.length < scale then false
  else
    -- The bound lies halfway between the greatest double and the next power of two.
    significand * Nat.pow 10 power.toNat <
      (Nat.pow 2 1024 - Nat.pow 2 970) * Nat.pow 10 (-power).toNat

/-- Splits a text at the first character that satisfies `p`. -/
def splitAtFirst (p : Char → Bool) (text : List Char) : List Char × Option (List Char) :=
  (text.takeWhile (!p ·), (text.dropWhile (!p ·)).tail?)

/-- Is the text a float with a fraction, an exponent or both? -/
def isFloat (text : List Char) : Bool :=
  let (negative, unsigned) := splitSign text
  let (mantissa, exponent) := splitAtFirst (fun c => c = 'e' || c = 'E') unsigned
  let (whole, fraction) := splitAtFirst (· = '.') mantissa
  let (lowering, places) := splitSign (exponent.getD [])
  let power := valueIn 10 (ungroup places)
  isWhole whole && (fraction.isSome || exponent.isSome) &&
    fraction.all (isGrouped Char.isDigit) && (exponent.isNone || isGrouped Char.isDigit places) &&
    -- Only a positive float is refused when it is too great.
    (negative ||
      let fraction := ungroup (fraction.getD [])
      isFinite (ungroup whole ++ fraction)
        ((if lowering then -(power : Int) else power) - fraction.length))

/-- Is the text the word of an infinity or of no number? -/
def isSpecialFloat (text : List Char) : Bool :=
  let word := (splitSign text).2
  word = "inf".toList || word = "nan".toList

/-! ### Dates and times -/

/-- How many days a month has. -/
def daysIn (year month : Nat) : Nat :=
  if month = 2 then
    if year % 4 = 0 ∧ (year % 100 ≠ 0 ∨ year % 400 = 0) then 29 else 28
  else if month = 4 ∨ month = 6 ∨ month = 9 ∨ month = 11 then 30
  else 31

/-- Is the text a date: a year of four digits, a month and a day of two? -/
def isDate : List Char → Bool
  | [a, b, c, d, '-', m, n, '-', x, y] =>
    match Decimal.digits? 10000 [a, b, c, d], Decimal.digits? 13 [m, n],
      Decimal.digits? 32 [x, y] with
    | some year, some month, some day => 0 < month && 0 < day && day ≤ daysIn year month
    | _, _, _ => false
  | _ => false

/-- Are these the hour and the minute of a time? -/
def isClock (h i m n : Char) : Bool :=
  (Decimal.digits? 24 [h, i]).isSome && (Decimal.digits? 60 [m, n]).isSome

/-- Is the text a time with seconds, which may have a fraction? A second may be a leap second. -/
def isTime : List Char → Bool
  | h :: i :: ':' :: m :: n :: ':' :: s :: t :: rest =>
    isClock h i m n && (Decimal.digits? 61 [s, t]).isSome &&
      match rest with
      | [] => true
      | '.' :: fraction => !fraction.isEmpty && fraction.all Char.isDigit
      | _ => false
  | _ => false

/-- Is the text the distance of a time from the universal one? -/
def isOffset : List Char → Bool
  | ['Z'] | ['z'] => true
  | ['+', h, i, ':', m, n] | ['-', h, i, ':', m, n] => isClock h i m n
  | _ => false

/-- Is the text a time, with or without an offset? -/
def isOffsetTime (text : List Char) : Bool :=
  let isOffsetStart (c : Char) : Bool := c = 'Z' || c = 'z' || c = '+' || c = '-'
  let offset := text.dropWhile (!isOffsetStart ·)
  isTime (text.takeWhile (!isOffsetStart ·)) && (offset.isEmpty || isOffset offset)

/-- Is the text a date, a time, or both with a mark between them? -/
def isMoment (text : List Char) : Bool :=
  isDate text || isTime text ||
    isDate (text.take 10) &&
      match text.drop 10 with
      | c :: time => (c = 'T' || c = 't' || c = ' ') && isOffsetTime time
      | [] => false

/-! ### Scalars -/

/-- Is the text a truth value? -/
def isBool (text : List Char) : Bool :=
  text = "true".toList || text = "false".toList

/-- The value of a scalar. -/
def value? (text : List Char) : Option Value :=
  match integer? text with
  | some value => some (.integer value)
  | none =>
    if isBool text || isFloat text || isSpecialFloat text || isMoment text then some .unused
    else none

/-- May the character stand in a scalar? -/
def isScalarChar (c : Char) : Bool :=
  c.isAlphanum || c = '+' || c = '-' || c = '_' || c = '.' || c = ':'

/-- Splits off the longest scalar. A blank between a date and a digit belongs to it. -/
def split (text : List Char) : List Char × List Char :=
  let scalar := text.takeWhile isScalarChar
  match text.dropWhile isScalarChar with
  | ' ' :: c :: rest =>
    if isDate scalar ∧ c.isDigit then
      (scalar ++ ' ' :: (c :: rest).takeWhile isScalarChar, (c :: rest).dropWhile isScalarChar)
    else (scalar, ' ' :: c :: rest)
  | rest => (scalar, rest)

end Retrace.Toml.Scalar
