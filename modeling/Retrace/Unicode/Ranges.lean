import Retrace.Bisection

/-!
# Sets of code points as range tables

A property of characters is a set of code points, written as the ascending list of the points at
which membership changes: the first starts a range, the second ends it, and so on. A code point
belongs to the set when an odd number of those points lie at or below it.
-/

namespace Retrace.Unicode

/-- A set of code points, as the ascending points at which membership changes. -/
structure Ranges where
  /-- The points of change; even positions start a range, odd ones end it. -/
  changes : Array Nat

/-- Membership of a code point. -/
def Ranges.contains (r : Ranges) (c : Char) : Bool :=
  partitionPoint r.changes (· ≤ c.toNat) % 2 == 1

end Retrace.Unicode
