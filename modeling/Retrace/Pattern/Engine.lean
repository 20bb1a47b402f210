import Retrace.Pattern.Read
import Retrace.Pattern.Search

/-!
# Engines

What an engine of patterns is to those who use it. It compiles a text to a rule or refuses it, and
the same text always in the same way. A rule tells of each position of a text whether it matches
there, and how far, from the character before the position and the text behind it. Which match is
removed follows from this: the leftmost one.

Settings and cleanups are the same for all engines. The program runs with `Engine.standard`, the
expressions of this library.
-/

namespace Retrace.Pattern

/-- What a pattern is compiled to. -/
structure Rule where
  /-- The length of the preferred match at the front of a text, whose character before is
  `before`. -/
  matchLength? (before : Option Char) (text : List Char) : Option Nat

namespace Rule

/-- A text without the first match of a rule, when there is one; `before` is the character before
the text. -/
def removeFrom (rule : Rule) (before : Option Char) : List Char → Option (List Char)
  | [] => (rule.matchLength? before []).map fun _ => []
  | c :: text =>
    match rule.matchLength? before (c :: text) with
    | some length => some ((c :: text).drop length)
    | none => (rule.removeFrom (some c) text).map (c :: ·)

/-- A text without the first match of a rule. -/
def remove (rule : Rule) (text : List Char) : List Char :=
  (rule.removeFrom none text).getD text

end Rule

/-- The rule of an expression. -/
def Expr.rule (e : Expr) : Rule := ⟨e.matchLength?⟩

@[simp]
theorem Expr.matchLength?_rule (e : Expr) (before : Option Char) (text : List Char) :
    e.rule.matchLength? before text = e.matchLength? before text :=
  rfl

/-- An engine of patterns. -/
structure Engine where
  /-- Compiles a pattern, if it is one. -/
  compile? (pattern : String) : Option Rule

/-- The engine of the expressions of this library. Of the properties of Unicode it knows the general
categories and few others; a pattern with a script, for one, is refused. -/
def Engine.standard : Engine := ⟨fun pattern => (read? pattern).map Expr.rule⟩

@[simp]
theorem Engine.compile?_standard (pattern : String) :
    standard.compile? pattern = (read? pattern).map Expr.rule :=
  rfl

end Retrace.Pattern
