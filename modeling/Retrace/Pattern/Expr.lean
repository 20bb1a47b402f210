import Retrace.Pattern.CharSet

/-!
# Regular expressions

The expressions that patterns stand for. Of two branches the first is preferred; a repetition
prefers to go on when it is greedy and to stop otherwise.
-/

namespace Retrace.Pattern

/-- A condition on the characters before and after a position. -/
inductive Assertion where
  /-- The text starts here. -/
  | textStart
  /-- The text ends here. -/
  | textEnd
  /-- A line starts here: the text does, or a line feed stands before. -/
  | lineStart
  /-- A line ends here: the text does, or a line feed stands after. -/
  | lineEnd
  /-- A line starts here, where a carriage return and a line feed may end a line too. -/
  | anyLineStart
  /-- A line ends here, where a carriage return and a line feed may end a line too. -/
  | anyLineEnd
  /-- Exactly one of the neighbours is a word character. -/
  | boundary (ascii : Bool)
  /-- Both of the neighbours are word characters, or none is. -/
  | notBoundary (ascii : Bool)
  /-- A word starts here. -/
  | wordStart (ascii : Bool)
  /-- A word ends here. -/
  | wordEnd (ascii : Bool)
  /-- No word character stands before. -/
  | noWordBefore (ascii : Bool)
  /-- No word character stands after. -/
  | noWordAfter (ascii : Bool)
  deriving DecidableEq, Repr

/-- Is there a word character? -/
def isWordAt (ascii : Bool) (c : Option Char) : Bool :=
  (c.map (if ascii then CharSet.asciiWord else CharSet.word).contains).getD false

/-- Does a condition hold between two characters? Either is missing at an end of the text. -/
def Assertion.holds (before after : Option Char) : Assertion → Bool
  | .textStart => before.isNone
  | .textEnd => after.isNone
  | .lineStart => before.isNone || before == some '\n'
  | .lineEnd => after.isNone || after == some '\n'
  | .anyLineStart =>
    before.isNone || before == some '\n' || (before == some '\r' && after != some '\n')
  | .anyLineEnd =>
    after.isNone || after == some '\r' || (after == some '\n' && before != some '\r')
  | .boundary ascii => isWordAt ascii before != isWordAt ascii after
  | .notBoundary ascii => isWordAt ascii before == isWordAt ascii after
  | .wordStart ascii => !isWordAt ascii before && isWordAt ascii after
  | .wordEnd ascii => isWordAt ascii before && !isWordAt ascii after
  | .noWordBefore ascii => !isWordAt ascii before
  | .noWordAfter ascii => !isWordAt ascii after

/-- A regular expression. -/
inductive Expr where
  /-- The empty text. -/
  | empty
  /-- One character of a set. -/
  | set (s : CharSet)
  /-- The empty text where a condition holds. -/
  | look (assertion : Assertion)
  /-- One after the other. -/
  | seq (a b : Expr)
  /-- One or the other. -/
  | alt (a b : Expr)
  /-- Any number of times. -/
  | star (e : Expr) (greedy : Bool)
  /-- Once or more. -/
  | plus (e : Expr) (greedy : Bool)
  /-- A number of times. -/
  | times (e : Expr) (count : Nat)
  /-- Up to a number of times. -/
  | upTo (e : Expr) (count : Nat) (greedy : Bool)
  deriving DecidableEq, Repr

namespace Expr

/-- Can the expression match the empty text, when conditions hold? -/
def isNullable : Expr → Bool
  | empty | look _ | star _ _ | upTo _ _ _ => true
  | set _ => false
  | seq a b => a.isNullable && b.isNullable
  | alt a b => a.isNullable || b.isNullable
  | plus e _ => e.isNullable
  | times e count => count == 0 || e.isNullable

/-- One character. -/
def char (c : Char) : Expr := set (.single c)

/-- The expressions of a list, one after the other. -/
def ofList : List Expr → Expr
  | [] => empty
  | [e] => e
  | e :: es => seq e (ofList es)

/-- The expression of a literal text. -/
def literal (text : String) : Expr := ofList (text.toList.map char)

/-- At least a number of times. A body that may be empty is entered once before it is repeated. -/
def atLeast (e : Expr) (greedy : Bool) : Nat → Expr
  | 0 => if e.isNullable then upTo (plus e greedy) 1 greedy else star e greedy
  | 1 => plus e greedy
  | count + 2 => seq (times e (count + 1)) (plus e greedy)

/-- From one number of times to another. -/
def between (e : Expr) (greedy : Bool) (least most : Nat) : Expr :=
  if least = most then times e least
  else if least = 0 then upTo e most greedy
  else seq (times e least) (upTo e (most - least) greedy)

end Expr

/-- How deep several parts are nested, of which one alone stands for itself, when the parts of the
deepest of them are nested to a depth. -/
def levelOf (count deepest : Nat) : Nat :=
  if count < 2 then deepest else deepest + 1

/-- How much memory a set of characters takes, about: some bytes for each of its spans. -/
def CharSet.footprint : CharSet → Nat
  | .none => 32
  | .span _ last => if last.toNat < 128 then 32 else 160
  | .category name => 32 * (Unicode.categoryRanges name).changes.size
  | .blank => 400
  | .word => 32 * Unicode.word.changes.size
  | .union a b => a.footprint + b.footprint
  | .inter a b => a.footprint + b.footprint
  | .compl a => a.footprint + 160
  | .folded a => 2 * a.footprint

/-- How much memory an expression takes, about. -/
def Expr.footprint : Expr → Nat
  | .empty | .look _ => 32
  | .set s => s.footprint
  | .seq a b => a.footprint + b.footprint
  | .alt a b => a.footprint + b.footprint + 32
  | .star e _ | .plus e _ => e.footprint + 32
  | .times e count => count * e.footprint
  | .upTo e count _ => count * (e.footprint + 32)

/-- The memory that no expression may exceed. -/
def footprintLimit : Nat := 10 * 1024 * 1024

end Retrace.Pattern
