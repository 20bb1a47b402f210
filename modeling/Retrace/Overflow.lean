/-!
# Sums that may not fit

The numbers of the program have 32 or 64 bits, and a sum of two of them may need more. How the
program is built decides what becomes of such a sum: it is refused, and nothing that depends on it
has an answer, or it starts over at zero.
-/

namespace Retrace

/-- What becomes of sums that do not fit. -/
inductive Overflow where
  /-- They are refused. -/
  | refused
  /-- They start over at zero. -/
  | wrapped
  deriving Repr, DecidableEq

namespace Overflow

/-- A sum of numbers below a bound, if it has a value. -/
def sum? (overflow : Overflow) (bound a b : Nat) : Option Nat :=
  match overflow with
  | .refused => if a + b < bound then some (a + b) else none
  | .wrapped => some ((a + b) % bound)

/-- The number of 32 bits that comes next, if there is one. -/
def next? (overflow : Overflow) (n : UInt32) : Option UInt32 :=
  (overflow.sum? UInt32.size n.toNat 1).map UInt32.ofNat

variable {overflow : Overflow} {bound a b : Nat}

/-- A sum that fits is exact. -/
theorem sum?_of_lt (h : a + b < bound) : overflow.sum? bound a b = some (a + b) := by
  cases overflow with
  | refused => exact if_pos h
  | wrapped => exact congrArg some (Nat.mod_eq_of_lt h)

/-- A sum has no value exactly if it is refused and does not fit. -/
theorem sum?_eq_none_iff :
    overflow.sum? bound a b = none ↔ overflow = .refused ∧ bound ≤ a + b := by
  cases overflow with
  | refused => simp [sum?]
  | wrapped => simp [sum?]

end Overflow

end Retrace
