import Retrace.Pattern.Escape

/-!
# Classes in brackets

A class lists characters, ranges, escapes, ASCII sets between colons and further classes, and is
negated by a caret in front. Two ampersands, two hyphens and two tildes stand for the intersection,
the difference and the symmetric difference of what stands before and after; they bind alike, from
the left.
-/

namespace Retrace.Pattern

/-- What combines the two sides of an operator. -/
inductive SetOperator where
  /-- The characters of both. -/
  | inter
  /-- The characters of the left side alone. -/
  | diff
  /-- The characters of one side alone. -/
  | symmDiff

/-- The set of two sides. Both are closed under the case of letters first. -/
def SetOperator.apply (flags : Flags) (left right : CharSet) : SetOperator → CharSet
  | .inter => .inter (flags.fold left) (flags.fold right)
  | .diff => .diff (flags.fold left) (flags.fold right)
  | .symmDiff => .symmDiff (flags.fold left) (flags.fold right)

/-- The left side of an operator, and the operator. -/
structure LeftSide where
  /-- The set before the operator. -/
  set : CharSet
  /-- How deep its parts are nested. -/
  depth : Nat
  /-- The operator. -/
  operator : SetOperator

/-- A class that is open: whether it is negated, the operator and its left side that stand before
what is being listed, and what has been listed. -/
structure OpenClass where
  /-- Is the class negated? -/
  negated : Bool
  /-- What stands before an operator. -/
  left : Option LeftSide := none
  /-- What has been listed since. -/
  listed : CharSet := .none
  /-- How many items that are. -/
  count : Nat := 0
  /-- How deep the parts of the deepest of them are nested. -/
  deepest : Nat := 0

namespace OpenClass

/-- What an open class stands for so far. -/
def side (flags : Flags) (c : OpenClass) : CharSet :=
  match c.left with
  | none => c.listed
  | some left => left.operator.apply flags left.set c.listed

/-- How deep the parts of an open class are nested so far. -/
def depth (c : OpenClass) : Nat :=
  let listed := levelOf c.count c.deepest
  match c.left with
  | none => listed
  | some left => max left.depth listed + 1

/-- Lists one more set, with the depth of its parts. -/
def add (c : OpenClass) (s : CharSet) (depth : Nat) : OpenClass :=
  { c with listed := .union c.listed s, count := c.count + 1, deepest := max c.deepest depth }

/-- Starts the right side of an operator. -/
def operate (flags : Flags) (operator : SetOperator) (c : OpenClass) : OpenClass where
  negated := c.negated
  left := some ⟨c.side flags, c.depth, operator⟩

end OpenClass

/-- Reads hyphens at the front of a class, which stand for themselves. -/
def readHyphens (flags : Flags) (opened : OpenClass) : List Char → OpenClass × List Char
  | [] => (opened, [])
  | c :: text =>
    if c = '-' then readHyphens flags (opened.add (.single '-') 0) text
    else if flags.verbose ∧ Unicode.isBlank c then readHyphens flags opened text
    else (opened, c :: text)

/-- Opens a class behind its bracket. A closing bracket at the front stands for itself. -/
def openClass (flags : Flags) (text : List Char) : OpenClass × List Char :=
  let text := flags.skip text
  let (negated, text) :=
    match text with
    | '^' :: text => (true, flags.skip text)
    | _ => (false, text)
  let (opened, text) := readHyphens flags { negated } text
  match text with
  | ']' :: rest =>
    if opened.count = 0 then (opened.add (.single ']') 0, flags.skip rest) else (opened, text)
  | _ => (opened, text)

/-- Reads an ASCII set between colons, behind its opening bracket. -/
def readPosix? (flags : Flags) : List Char → Option (CharSet × List Char)
  | ':' :: text =>
    let (negated, text) :=
      match text with
      | '^' :: text => (true, text)
      | _ => (false, text)
    match text.dropWhile (· ≠ ':') with
    | ':' :: ']' :: rest => do
      let s ← CharSet.posix? (String.ofList (text.takeWhile (· ≠ ':')))
      return (← flags.foldAndNegate? negated s, rest)
    | _ => none
  | _ => none

/-- Reads a character or an escape of a class. -/
def readItem? (flags : Flags) : List Char → Option (Primitive × List Char)
  | [] => none
  | '\\' :: text => readEscape? flags text
  | c :: text => some (.char c, text)

/-- The character that a class has for a character or an escape. Without Unicode it is a byte. -/
def Primitive.member? (flags : Flags) : Primitive → Option Char
  | .char c => if flags.unicode ∨ c.toNat < 128 then some c else none
  | .byte c => some c
  | .set _ | .look _ => none

/-- The next character behind what the flags leave out. -/
def peek (flags : Flags) (text : List Char) : Option Char := (flags.skip text).head?

/-- Reads a character, a range or an escape. A hyphen before a closing bracket or another hyphen
makes no range. -/
def readRange? (flags : Flags) (text : List Char) : Option (CharSet × List Char) := do
  let (first, text) ← readItem? flags text
  let single : Option CharSet :=
    match first with
    | .set s => some s
    | first => (first.member? flags).map .single
  match flags.skip text with
  | [] => none
  | '-' :: rest =>
    if peek flags rest = some ']' ∨ peek flags rest = some '-' then
      return (← single, '-' :: rest)
    else
      let (last, rest) ← readItem? flags (flags.skip rest)
      let first ← first.member? flags
      let last ← last.member? flags
      guard (first ≤ last)
      return (.span first last, rest)
  | rest => return (← single, rest)

/-- Reads a class behind its opening bracket, with the depth of its parts. `outer` are the enclosing
classes, innermost first. Each turn takes a character at least, so that `turns` is bounded by the
length of the text. -/
def readClassFrom? (flags : Flags) : Nat → OpenClass → List OpenClass → List Char →
    Option ((CharSet × Nat) × List Char)
  | 0, _, _, _ => none
  | turns + 1, inner, outer, text =>
    match flags.skip text with
    | [] => none
    | ']' :: text => do
      let s ← flags.foldAndNegate? inner.negated (inner.side flags)
      let depth := inner.depth + 1
      match outer with
      | [] => return ((s, depth), text)
      | enclosing :: outer => readClassFrom? flags turns (enclosing.add s depth) outer text
    | '[' :: text =>
      match readPosix? flags text with
      | some (s, rest) => readClassFrom? flags turns (inner.add s 0) outer rest
      | none =>
        let (opened, text) := openClass flags text
        readClassFrom? flags turns opened (inner :: outer) text
    | '&' :: '&' :: text => readClassFrom? flags turns (inner.operate flags .inter) outer text
    | '-' :: '-' :: text => readClassFrom? flags turns (inner.operate flags .diff) outer text
    | '~' :: '~' :: text => readClassFrom? flags turns (inner.operate flags .symmDiff) outer text
    | text => do
      let (s, rest) ← readRange? flags text
      readClassFrom? flags turns (inner.add s 0) outer rest

/-- Reads a class behind its opening bracket, with the depth of its parts. -/
def readClass? (flags : Flags) (text : List Char) : Option ((CharSet × Nat) × List Char) :=
  let (opened, rest) := openClass flags text
  readClassFrom? flags (text.length + 1) opened [] rest

end Retrace.Pattern
