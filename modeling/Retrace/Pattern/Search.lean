import Retrace.Pattern.Expr

/-!
# Searching for expressions

A search reads the text from one position on, character by character, and keeps the ways in which
the expression may go on there, in the order of preference. A way is the list of the expressions
that are still to be matched. At each position every way is explored up to the next character that
it takes, and nothing is explored twice, so that a way that comes back to itself without taking a
character is dropped and its next preference counts. The match found at a position is that of the
most preferred way.
-/

namespace Retrace.Pattern

/-- What is still to be matched. -/
abbrev Way := List Expr

/-- What exploring a way up to the next character leads to. -/
inductive Outcome where
  /-- The end of the expression. -/
  | matched
  /-- A character of a set, and what is to be matched after it. -/
  | takes (s : CharSet) (rest : Way)

/-- Explores under the ways that have been explored before. -/
abbrev Explore := List Way → List Outcome × List Way

namespace Explore

/-- Leads nowhere. -/
def nowhere : Explore := fun seen => ([], seen)

/-- Leads to one outcome. -/
def lead (outcome : Outcome) : Explore := fun seen => ([outcome], seen)

/-- Explores a way unless it has been explored before. -/
def once (way : Way) (explore : Explore) : Explore := fun seen =>
  if seen.contains way then ([], seen) else explore (way :: seen)

/-- Explores one and then the other. -/
def followedBy (first second : Explore) : Explore := fun seen =>
  let (outcomes, seen) := first seen
  let (more, seen) := second seen
  (outcomes ++ more, seen)

/-- Explores to go on and to stop in the order of preference. -/
def choose (greedy : Bool) (goOn stop : Explore) : Explore :=
  if greedy then goOn.followedBy stop else stop.followedBy goOn

/-- Explores a number of copies of a body, and then `next`. -/
def copies (e : Expr) (body : Way → Explore → Explore) (rest : Way) (next : Explore) :
    Nat → Explore
  | 0 => once (.times e 0 :: rest) next
  | count + 1 =>
    once (.times e (count + 1) :: rest)
      (body (.times e count :: rest) (copies e body rest next count))

/-- Explores up to a number of copies of a body, and then `next`. -/
def optionalCopies (e : Expr) (greedy : Bool) (body : Way → Explore → Explore) (rest : Way)
    (next : Explore) : Nat → Explore
  | 0 => once (.upTo e 0 greedy :: rest) next
  | count + 1 =>
    once (.upTo e (count + 1) greedy :: rest) <|
      choose greedy
        (body (.upTo e count greedy :: rest) (optionalCopies e greedy body rest next count))
        next

end Explore

open Explore in
/-- Explores an expression between two characters. `rest` is what is to be matched after it, and
`next` explores that. -/
def explore (before after : Option Char) : Expr → Way → Explore → Explore
  | .empty, rest, next => once (.empty :: rest) next
  | .set s, rest, _ => once (.set s :: rest) (lead (.takes s rest))
  | .look a, rest, next =>
    once (.look a :: rest) (if a.holds before after then next else nowhere)
  | .seq a b, rest, next =>
    once (.seq a b :: rest)
      (explore before after a (b :: rest) (explore before after b rest next))
  | .alt a b, rest, next =>
    once (.alt a b :: rest)
      ((explore before after a rest next).followedBy (explore before after b rest next))
  | .star e greedy, rest, next =>
    once (.star e greedy :: rest)
      (choose greedy (explore before after e (.star e greedy :: rest) nowhere) next)
  | .plus e greedy, rest, next =>
    -- The body has been explored when it is left, so that going on once more adds nothing.
    once (.plus e greedy :: rest)
      (explore before after e (.star e greedy :: rest) (once (.star e greedy :: rest) next))
  | .times e count, rest, next => copies e (explore before after e) rest next count
  | .upTo e count greedy, rest, next =>
    optionalCopies e greedy (explore before after e) rest next count

/-- Explores a way between two characters. -/
def exploreWay (before after : Option Char) : Way → Explore
  | [] => Explore.once [] (Explore.lead .matched)
  | e :: rest => explore before after e rest (exploreWay before after rest)

/-- Explores ways one after the other. -/
def exploreWays (before after : Option Char) (ways : List Way) : List Outcome :=
  ((ways.foldr (fun way more => (exploreWay before after way).followedBy more)
    Explore.nowhere) []).1

/-- The outcomes before the first end of the expression, and whether there is one. What comes after
it is less preferred. -/
def cutAtMatch : List Outcome → List (CharSet × Way) × Bool
  | [] => ([], false)
  | .matched :: _ => ([], true)
  | .takes s rest :: outcomes =>
    let (kept, isMatched) := cutAtMatch outcomes
    ((s, rest) :: kept, isMatched)

/-- The length of the preferred match of the given ways at the front of a text, whose character
before is `before`. `length` characters have been read, and `best` is the match so far. -/
def matchFrom (before : Option Char) (ways : List Way) (length : Nat) (best : Option Nat)
    (text : List Char) : Option Nat :=
  let (kept, isMatched) := cutAtMatch (exploreWays before text.head? ways)
  let best := if isMatched then some length else best
  match text with
  | [] => best
  | c :: text =>
    let ways := kept.filterMap fun (s, rest) => if s.contains c then some rest else none
    if ways.isEmpty then best else matchFrom (some c) ways (length + 1) best text

/-- The length of the preferred match of an expression at the front of a text. -/
def Expr.matchLength? (e : Expr) (before : Option Char) (text : List Char) : Option Nat :=
  matchFrom before [[e]] 0 none text

end Retrace.Pattern
