/-!
# Bisection

The partition point of an array: how many elements at its front satisfy a predicate that holds on
a prefix and fails after it. Sorted tables are searched with it, both the mapping table of a source
map and the range tables of character properties. The main statement is `partitionPoint_le`; on a
predicate that does not split the array into a prefix and the rest, the result is still a position
of the array.
-/

namespace Retrace

/-- Bisects the positions from `lo` to `hi`, keeping the partition point between them. -/
def partitionPointFrom {α : Type} (xs : Array α) (p : α → Bool) (lo hi : Nat)
    (hhi : hi ≤ xs.size) : Nat :=
  if h : lo < hi then
    -- The middle is rounded down, so that it is a position below `hi`.
    let mid := lo + (hi - lo) / 2
    have hmid : mid < xs.size := by omega
    if p xs[mid] then partitionPointFrom xs p (mid + 1) hi hhi
    else partitionPointFrom xs p lo mid (by omega)
  else lo
termination_by hi - lo

/-- The number of elements at the front of `xs` that satisfy `p`, when those that do come first. -/
def partitionPoint {α : Type} (xs : Array α) (p : α → Bool) : Nat :=
  partitionPointFrom xs p 0 xs.size (Nat.le_refl _)

/-- Bisection stays inside its interval. -/
theorem partitionPointFrom_le {α : Type} (xs : Array α) (p : α → Bool) (lo hi : Nat)
    (hhi : hi ≤ xs.size) (hlo : lo ≤ hi) : partitionPointFrom xs p lo hi hhi ≤ hi := by
  fun_induction partitionPointFrom xs p lo hi hhi with
  | case1 lo hi hhi h mid hmid hp ih => exact ih (by omega)
  | case2 lo hi hhi h mid hmid hp ih => have := ih (by omega); omega
  | case3 lo hi hhi h => omega

/-- The partition point is a position of the array or its end. -/
theorem partitionPoint_le {α : Type} (xs : Array α) (p : α → Bool) :
    partitionPoint xs p ≤ xs.size :=
  partitionPointFrom_le xs p 0 xs.size _ (Nat.zero_le _)

end Retrace
