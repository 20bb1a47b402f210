import Retrace.Pattern.Bracketed

/-!
# Reading patterns

A pattern is read from the left, with the groups that are open around the place kept beside. What it
may not hold: references back to groups, conditions on the text around other than the assertions,
repetitions of nothing, groups and classes without their other end, nesting beyond a limit, and
expressions that take too much memory.
-/

namespace Retrace.Pattern

/-- A part of a pattern. -/
structure Part where
  /-- What it stands for. -/
  expr : Expr
  /-- How deep its parts are nested. -/
  depth : Nat := 0
  /-- May a repetition follow? -/
  isRepeatable : Bool := true

/-- How deep parts may be nested. -/
def depthLimit : Nat := 250

/-- What has been read of a group, or of the whole pattern. -/
structure OpenGroup where
  /-- What the flags say now. -/
  flags : Flags
  /-- The branches that are finished, last first. -/
  branches : List Part
  /-- The parts of the current branch, last first. -/
  parts : List Part

/-- Where reading stands. -/
structure Reading where
  /-- The innermost group. -/
  inner : OpenGroup
  /-- The groups around it, innermost first. -/
  outer : List OpenGroup
  /-- The names of groups so far. -/
  names : List (List Char)

/-- The depth of several parts. -/
def depthOf (parts : List Part) : Nat :=
  levelOf parts.length ((parts.map Part.depth).foldl max 0)

/-- A branch of its parts, last first. -/
def branchOf (parts : List Part) : Part where
  expr := .ofList (parts.reverse.map Part.expr)
  depth := depthOf parts

/-- The expression of branches, the first preferred. -/
def alternatives : List Expr → Expr
  | [] => .empty
  | [e] => e
  | e :: es => .alt e (alternatives es)

/-- What a group stands for. -/
def OpenGroup.close (group : OpenGroup) : Part :=
  let branches := branchOf group.parts :: group.branches
  ⟨alternatives (branches.reverse.map Part.expr), depthOf branches, true⟩

namespace Reading

/-- What the flags say. -/
def flags (r : Reading) : Flags := r.inner.flags

/-- Adds a part. -/
def add (r : Reading) (part : Part) : Reading :=
  { r with inner := { r.inner with parts := part :: r.inner.parts } }

/-- Starts another branch. -/
def branch (r : Reading) : Reading :=
  let inner := r.inner
  { r with inner :=
    { inner with branches := branchOf inner.parts :: inner.branches, parts := [] } }

/-- Opens a group with flags of its own. -/
def openGroup (r : Reading) (flags : Flags) : Reading :=
  { r with inner := ⟨flags, [], []⟩, outer := r.inner :: r.outer }

/-- Closes the innermost group. -/
def closeGroup? (r : Reading) : Option Reading :=
  match r.outer with
  | [] => none
  | enclosing :: outer =>
    let group := r.inner.close
    some (add { r with inner := enclosing, outer } { group with depth := group.depth + 1 })

/-- Takes off the last part, for a repetition. -/
def takeLast? (r : Reading) : Option (Part × Reading) :=
  match r.inner.parts with
  | [] => none
  | part :: parts =>
    if part.isRepeatable then some (part, { r with inner := { r.inner with parts } }) else none

/-- Repeats the last part. A question mark behind the repetition changes its greed. -/
def repeatLast? (r : Reading) (repetition : Expr → Bool → Expr) (text : List Char) :
    Option (Reading × List Char) := do
  let (part, r) ← r.takeLast?
  let (isLazy, text) :=
    match text with
    | '?' :: text => (true, text)
    | _ => (false, text)
  -- Either of the two makes a repetition lazy, both together leave it greedy.
  let greedy := isLazy = r.flags.swapGreed
  return (r.add ⟨repetition part.expr greedy, part.depth + 1, true⟩, text)

end Reading

/-! ### Counted repetitions -/

/-- The digits at the front of a text. Where blanks are left out they may stand between digits. -/
def takeDigits (flags : Flags) : List Char → List Char × List Char
  | [] => ([], [])
  | c :: text =>
    if c.isDigit then
      let (digits, rest) := takeDigits flags text
      (c :: digits, rest)
    else if flags.verbose ∧ Unicode.isBlank c then takeDigits flags text
    else ([], c :: text)

/-- Reads a number of 32 bits with blanks around it. -/
def readCount? (flags : Flags) (text : List Char) : Option (Nat × List Char) := do
  let (digits, rest) := takeDigits flags (text.dropWhile Unicode.isBlank)
  guard (!digits.isEmpty)
  let count := digits.foldl (fun acc c => acc * 10 + (c.toNat - 48)) 0
  guard (count < UInt32.size)
  return (count, flags.skip (rest.dropWhile Unicode.isBlank))

/-- Reads the bounds of a repetition behind the opening brace, and the closing one. -/
def readBounds? (flags : Flags) (text : List Char) :
    Option ((Nat × Option Nat) × List Char) := do
  let (least, text) ← readCount? flags (flags.skip text)
  match text with
  | '\x7d' :: rest => return ((least, some least), rest)
  | ',' :: text =>
    match flags.skip text with
    | '\x7d' :: rest => return ((least, none), rest)
    | text =>
      match ← readCount? flags text with
      | (most, '\x7d' :: rest) =>
        guard (least ≤ most)
        return ((least, some most), rest)
      | _ => none
  | _ => none

/-- The repetition between bounds. -/
def boundedExpr (bounds : Nat × Option Nat) (e : Expr) (greedy : Bool) : Expr :=
  match bounds with
  | (least, none) => .atLeast e greedy least
  | (least, some most) => .between e greedy least most

/-! ### Groups -/

/-- May the character stand in the name of a group? -/
def isNameChar (isFirst : Bool) (c : Char) : Bool :=
  let isLetter := (["lu", "ll", "lt", "lm", "lo", "nl"].any fun name =>
    (Unicode.categoryRanges name).contains c)
  let isNumber := (["nd", "no"].any fun name => (Unicode.categoryRanges name).contains c)
  c = '_' || isLetter || (!isFirst && (c = '.' || c = '[' || c = ']' || isNumber))

/-- Reads the name of a group up to its closing bracket. -/
def readName? (text : List Char) : Option (List Char × List Char) :=
  let name := text.takeWhile (· ≠ '>')
  match text.dropWhile (· ≠ '>'), name with
  | _ :: rest, c :: cs =>
    if isNameChar true c && cs.all (isNameChar false) then some (name, rest) else none
  | _, _ => none

/-- Opens a group with a name. -/
def openNamed? (r : Reading) (text : List Char) : Option (Reading × List Char) := do
  let (name, rest) ← readName? text
  guard (!r.names.contains name)
  return ({ r.openGroup r.flags with names := name :: r.names }, rest)

/-- Reads what follows an opening parenthesis. Flags without a group change the rest of the group
that they stand in. -/
def readGroup? (r : Reading) (text : List Char) : Option (Reading × List Char) :=
  match r.flags.skip text with
  -- Conditions on the text around are refused before groups are looked at.
  | '?' :: '=' :: _ | '?' :: '!' :: _ | '?' :: '<' :: '=' :: _ | '?' :: '<' :: '!' :: _ => none
  | '?' :: 'P' :: '<' :: text | '?' :: '<' :: text => openNamed? r text
  | '?' :: text =>
    match readFlags? r.flags [] text with
    | some (flags, ':', rest) => some (r.openGroup flags, rest)
    | some (flags, _, rest) =>
      if text.head? = some ')' then none
      else some ({ r with inner :=
        { r.inner with flags, parts := ⟨.empty, 0, false⟩ :: r.inner.parts } }, rest)
    | none => none
  | text => some (r.openGroup r.flags, text)

/-! ### Patterns -/

/-- The expression of a character, a set or an assertion. A byte beyond ASCII is in no text by
itself. -/
def Primitive.expr? (flags : Flags) : Primitive → Option Expr
  | .char c => some (flags.char c)
  | .byte _ => none
  | .set s => some (.set s)
  | .look a => some (.look a)

/-- The dot: any character but the ends of lines. -/
def dot? (flags : Flags) : Option Expr :=
  if !flags.unicode then none
  else if flags.dotAll then some (.set .all)
  else if flags.anyLineEnd then some (.set (.compl (.union (.single '\r') (.single '\n'))))
  else some (.set (.compl (.single '\n')))

/-- The caret. -/
def caret (flags : Flags) : Assertion :=
  if !flags.multiLine then .textStart
  else if flags.anyLineEnd then .anyLineStart
  else .lineStart

/-- The dollar sign. -/
def dollar (flags : Flags) : Assertion :=
  if !flags.multiLine then .textEnd
  else if flags.anyLineEnd then .anyLineEnd
  else .lineEnd

/-- Reads the part of a pattern that a character begins, behind that character. -/
def readPart? (r : Reading) (c : Char) (text : List Char) : Option (Reading × List Char) :=
  let flags := r.flags
  match c with
  | '(' => readGroup? r text
  | ')' => r.closeGroup?.map (·, text)
  | '|' => some (r.branch, text)
  | '[' => (readClass? flags text).map fun ((s, depth), rest) => (r.add ⟨.set s, depth, true⟩, rest)
  | '?' => r.repeatLast? (fun e greedy => .upTo e 1 greedy) text
  | '*' => r.repeatLast? (fun e greedy => .atLeast e greedy 0) text
  | '+' => r.repeatLast? (fun e greedy => .plus e greedy) text
  | '\x7b' => do
    let (bounds, rest) ← readBounds? flags text
    r.repeatLast? (boundedExpr bounds) (flags.skip rest)
  | '.' => (dot? flags).map fun e => (r.add ⟨e, 0, true⟩, text)
  | '^' => some (r.add ⟨.look (caret flags), 0, true⟩, text)
  | '$' => some (r.add ⟨.look (dollar flags), 0, true⟩, text)
  | '\\' => do
    let (primitive, rest) ← readEscape? flags text
    return (r.add ⟨← primitive.expr? flags, 0, true⟩, rest)
  | _ => some (r.add ⟨flags.char c, 0, true⟩, text)

/-- Reads a pattern to its end. Each turn takes a character at least, so that `turns` is bounded by
the length of the text. -/
def readFrom? : Nat → Reading → List Char → Option Part
  | 0, _, _ => none
  | turns + 1, r, text =>
    match r.flags.skip text with
    | [] => if r.outer.isEmpty then some r.inner.close else none
    | c :: text => do
      let (r, rest) ← readPart? r c text
      readFrom? turns r rest

/-- The expression of a pattern. -/
def read? (pattern : String) : Option Expr := do
  let text := pattern.toList
  let part ← readFrom? (text.length + 1) ⟨⟨Flags.start, [], []⟩, [], []⟩ text
  guard (part.depth ≤ depthLimit ∧ part.expr.footprint ≤ footprintLimit)
  return part.expr

end Retrace.Pattern
