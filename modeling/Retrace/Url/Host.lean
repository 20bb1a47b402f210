import Retrace.Text.Lines
import Retrace.Url.Domain
import Retrace.Url.Fault
import Retrace.Url.Percent
import Retrace.Url.Punycode

/-!
# Hosts

The host of a URL in its normal form. Special URLs have a domain name in lower-case ASCII, an IPv4
address as four decimal numbers, or an IPv6 address in brackets; other URLs have any host text
without certain characters.
-/

namespace Retrace.Url.Host

/-! ### IPv6 addresses -/

/-- A piece of an address: one to four hexadecimal digits. -/
def piece? (text : List Char) : Option Nat := do
  guard (!text.isEmpty ∧ text.length ≤ 4)
  Hexadecimal.value? text

/-- A number of a dotted address: decimal, below 256, without leading zeros. -/
def octet? (text : List Char) : Option Nat := do
  guard (!text.isEmpty ∧ text.all Char.isDigit ∧ (text.length = 1 ∨ text.head? ≠ some '0'))
  let value := text.foldl (fun acc c => acc * 10 + (c.toNat - 48)) 0
  guard (value < 256)
  return value

/-- The last piece of an address, or the two pieces of a dotted address in its place. -/
def lastPieces? (text : List Char) : Option (List Nat) :=
  match (piece? text), (text.splitOn '.').map octet? with
  | some piece, _ => some [piece]
  | none, [some a, some b, some c, some d] => some [a * 256 + b, c * 256 + d]
  | none, _ => none

/-- The pieces between colons. -/
def pieces? (isEnd : Bool) (text : List Char) : Option (List Nat) :=
  if text.isEmpty then some []
  else
    let parts := text.splitOn ':'
    match parts.getLast? with
    | none => some []
    | some last => do
      let first ← parts.dropLast.mapM piece?
      return first ++ (← if isEnd then lastPieces? last else (piece? last).map ([·]))

/-- Splits a text at its first two colons in a row. -/
def splitDoubleColon? : List Char → Option (List Char × List Char)
  | ':' :: ':' :: rest => some ([], rest)
  | c :: rest => (splitDoubleColon? rest).map fun (before, after) => (c :: before, after)
  | [] => none

/-- The eight pieces of an address; two colons in a row stand for zeros, at least one. -/
def ipv6? (text : List Char) : Option (List Nat) :=
  match splitDoubleColon? text with
  | none => do
    let pieces ← pieces? true text
    guard (pieces.length = 8)
    return pieces
  | some (before, after) => do
    let before ← pieces? false before
    let after ← pieces? true after
    guard (before.length + after.length < 8)
    return before ++ List.replicate (8 - before.length - after.length) 0 ++ after

/-- How many pieces at the front are zero. -/
def zeros (pieces : List Nat) : Nat := (pieces.takeWhile (· = 0)).length

/-- The length of the longest run of zeros. -/
def longestZeros : List Nat → Nat
  | [] => 0
  | piece :: pieces => max (zeros (piece :: pieces)) (longestZeros pieces)

/-- The text of pieces without a run of zeros left out. -/
def printPieces (pieces : List Nat) : List Char :=
  [':'].intercalate (pieces.map (Nat.toDigits 16))

/-- The text of an address, in which the first longest run of two or more zeros is left out. -/
def printIpv6 (pieces : List Nat) : List Char :=
  let longest := longestZeros pieces
  let before := pieces.length - (dropUntil longest pieces).length
  if longest < 2 then '[' :: printPieces pieces ++ [']']
  else
    '[' :: printPieces (pieces.take before) ++ "::".toList ++
      printPieces (pieces.drop (before + longest)) ++ [']']
where
  /-- The pieces from the first run of zeros of a length on. -/
  dropUntil (length : Nat) : List Nat → List Nat
    | [] => []
    | piece :: pieces =>
      if zeros (piece :: pieces) = length then piece :: pieces else dropUntil length pieces

/-! ### IPv4 addresses -/

/-- The value of digits in a base, nothing if one is none of the base. -/
def digitsValue? (base : Nat) (text : List Char) : Option Nat :=
  text.foldlM (fun acc c => do
    let digit ← Hexadecimal.digit? c.toNat
    guard (digit < base)
    return acc * base + digit) 0

/-- A number of an address: hexadecimal, octal or decimal by how it starts. -/
def number? : List Char → Option Nat
  | [] => none
  | '0' :: 'x' :: text | '0' :: 'X' :: text => digitsValue? 16 text
  | '0' :: c :: text => digitsValue? 8 (c :: text)
  | text => digitsValue? 10 text

/-- The parts of a domain between dots, without an empty one at the end. -/
def parts (domain : List Char) : List (List Char) :=
  let parts := domain.splitOn '.'
  if parts.getLast? = some [] ∧ 1 < parts.length then parts.dropLast else parts

/-- Does a domain end in a number, so that it must be an address? -/
def endsInNumber (domain : List Char) : Bool :=
  match (parts domain).getLast? with
  | none => false
  | some last => !last.isEmpty && (last.all Char.isDigit || (number? last).isSome)

/-- The address of a domain that ends in a number. The last number fills all the bytes that the
others leave. -/
def ipv4? (domain : List Char) : Option Nat := do
  let numbers ← (parts domain).mapM number?
  let last ← numbers.getLast?
  let first := numbers.dropLast
  guard (first.length < 4 ∧ first.all (· < 256) ∧ last < Nat.pow 256 (4 - first.length))
  return (first ++ List.replicate (4 - first.length) 0).foldl (fun acc n => acc * 256 + n) 0 + last

/-- The text of an address. -/
def printIpv4 (address : Nat) : List Char :=
  ['.'].intercalate
    ([address >>> 24, address >>> 16, address >>> 8, address].map fun n =>
      Nat.toDigits 10 (n % 256))

/-! ### Domains -/

/-- Is the character forbidden in every host? -/
def isForbidden (c : Char) : Bool :=
  c = '\x00' || c = '\t' || c = '\n' || c = '\r' || " #/:<>?@[\\]^|".toList.contains c

/-- Is the character forbidden in a domain? -/
def isForbiddenInDomain (c : Char) : Bool :=
  isForbidden c || c < ' ' || c = '%' || c = '\x7f'

/-- The ASCII form of a label. A label that claims to be one must be the form of some label. -/
def label? (label : List Char) : Option (List Char) :=
  let label := Domain.mapped label
  match label with
  | 'x' :: 'n' :: '-' :: '-' :: text => do
    guard (label.all (·.toNat < 128))
    let decoded ← Punycode.decode? text
    guard (decoded.any (128 ≤ ·.toNat) ∧ Domain.mapped decoded = decoded ∧ Domain.isPlain decoded)
    return label
  | _ =>
    if label.all (·.toNat < 128) then some label
    else if Domain.isPlain label then some ("xn--".toList ++ Punycode.encode label)
    else none

/-- Is the character one of the dots between labels? -/
def isDot (c : Char) : Bool :=
  c = '.' || c = '\u3002' || c = '\uff0e' || c = '\uff61'

/-- The ASCII form of a domain. -/
def domain? (text : List Char) : Option (List Char) := do
  let labels ← ((text.map fun c => if isDot c then '.' else c).splitOn '.').mapM label?
  let domain := ['.'].intercalate labels
  guard (!domain.any isForbiddenInDomain)
  return domain

/-- An address in brackets. -/
def readBracketed (text : List Char) : Except Fault (List Char) :=
  match (if text.getLast? = some ']' then ipv6? (text.drop 1).dropLast else none) with
  | some pieces => .ok (printIpv6 pieces)
  | none => .error .badIpv6

/-- The host of a special URL. -/
def readSpecial (text : List Char) : Except Fault (List Char) :=
  if text.head? = some '[' then readBracketed text
  else
    match Text.Utf8.decode? (percentDecode (Text.Utf8.encode text)) with
    | none => .error .badDomain
    | some decoded =>
      match domain? decoded.toList with
      | none => .error .badDomain
      | some domain =>
        if domain.isEmpty then .error .emptyHost
        else if endsInNumber domain then
          match ipv4? domain with
          | some address => .ok (printIpv4 address)
          | none => .error .badIpv4
        else .ok domain

/-- The host of any other URL. -/
def readOpaque (text : List Char) : Except Fault (List Char) :=
  if text.head? = some '[' then readBracketed text
  else if text.any isForbidden then .error .badHostCharacter
  else .ok (percentEncode inOpaque text)

/-- The host of a URL. -/
def read (isSpecial : Bool) (text : List Char) : Except Fault (List Char) :=
  if isSpecial then readSpecial text else readOpaque text

end Retrace.Url.Host
