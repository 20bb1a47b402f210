import Retrace.Bisection

/-!
# The partition point

On an array whose elements that satisfy a predicate come first, bisection finds their number
(`lt_partitionPoint_iff`), and so what stands in front of the point found is what filtering the
whole array gives (`take_partitionPoint`), and the element just in front of it is the last one that
satisfies the predicate (`getLast?_filter_eq`).
-/

namespace Retrace

variable {α : Type} {xs : Array α} {p : α → Bool}

/-- In front of an element that satisfies the predicate stand only such elements. -/
theorem satisfied_of_lt (hp : xs.toList.Pairwise fun a b => p b = true → p a = true) {i j : Nat}
    (hij : i < j) (hj : j < xs.size) (h : p xs[j] = true) : p xs[i] = true := by
  have := List.pairwise_iff_getElem.mp hp i j (by simp; omega) (by simpa using hj) hij
  simp only [Array.getElem_toList] at this
  exact this h

/-- Bisection keeps the elements that satisfy the predicate in front of its interval and those that
do not behind it. -/
theorem lt_partitionPointFrom_iff (lo hi : Nat) (hhi : hi ≤ xs.size)
    (hp : xs.toList.Pairwise fun a b => p b = true → p a = true) (hle : lo ≤ hi)
    (hlo : ∀ i (h : i < xs.size), i < lo → p xs[i] = true)
    (hfrom : ∀ i (h : i < xs.size), hi ≤ i → p xs[i] = false) :
    ∀ i (h : i < xs.size), p xs[i] = true ↔ i < partitionPointFrom xs p lo hi hhi := by
  fun_induction partitionPointFrom xs p lo hi hhi with
  | case1 lo hi hhi h mid hmid htrue ih =>
    -- The middle is satisfied, and with it all that stands in front.
    refine ih (by omega) (fun i hi' hlt => ?_) hfrom
    rcases Nat.lt_or_eq_of_le (Nat.le_of_lt_succ hlt) with hlt | rfl
    · exact satisfied_of_lt hp hlt hmid htrue
    · exact htrue
  | case2 lo hi hhi h mid hmid hfalse ih =>
    -- The middle is not satisfied, and so nothing behind it is.
    refine ih (by omega) hlo (fun i hi' hle' => ?_)
    rcases Nat.lt_or_eq_of_le hle' with hlt | rfl
    · rw [← Bool.not_eq_true]
      exact fun htrue => hfalse (satisfied_of_lt hp hlt hi' htrue)
    · simpa using hfalse
  | case3 lo hi hhi h =>
    -- The interval is empty: its bounds meet at the point.
    intro i hi'
    constructor
    · intro htrue
      apply Nat.lt_of_not_le
      intro hge
      rw [hfrom i hi' (by omega)] at htrue
      cases htrue
    · exact hlo i hi'

/-- The elements in front of the partition point satisfy the predicate, the others do not. -/
theorem lt_partitionPoint_iff (hp : xs.toList.Pairwise fun a b => p b = true → p a = true)
    (i : Nat) (h : i < xs.size) : p xs[i] = true ↔ i < partitionPoint xs p :=
  lt_partitionPointFrom_iff 0 xs.size (Nat.le_refl _) hp (Nat.zero_le _) (by omega) (by omega) i h

/-- What stands in front of the partition point is all that satisfies the predicate. -/
theorem take_partitionPoint (hp : xs.toList.Pairwise fun a b => p b = true → p a = true) :
    xs.toList.take (partitionPoint xs p) = xs.toList.filter p := by
  have htake : (xs.toList.take (partitionPoint xs p)).filter p =
      xs.toList.take (partitionPoint xs p) := by
    rw [List.filter_eq_self]
    intro x hx
    obtain ⟨i, hi, rfl⟩ := List.mem_take_iff_getElem.mp hx
    exact (lt_partitionPoint_iff hp i (by simp at hi; omega)).mpr (by omega)
  have hdrop : (xs.toList.drop (partitionPoint xs p)).filter p = [] := by
    rw [List.filter_eq_nil_iff]
    intro x hx htrue
    obtain ⟨i, hi, rfl⟩ := List.mem_drop_iff_getElem.mp hx
    have hlt := (lt_partitionPoint_iff hp _ (by simp at hi; omega)).mp htrue
    omega
  calc xs.toList.take (partitionPoint xs p)
      = (xs.toList.take (partitionPoint xs p)).filter p ++
          (xs.toList.drop (partitionPoint xs p)).filter p := by rw [htake, hdrop, List.append_nil]
    _ = xs.toList.filter p := by rw [← List.filter_append, List.take_append_drop]

/-- What stands behind a partition point is all that does not satisfy the predicate. -/
theorem drop_partitionPoint (hp : xs.toList.Pairwise fun a b => p b = true → p a = true) :
    xs.toList.drop (partitionPoint xs p) = xs.toList.filter (!p ·) := by
  have hfront : (xs.toList.take (partitionPoint xs p)).filter (!p ·) = [] := by
    rw [take_partitionPoint hp, List.filter_filter, List.filter_eq_nil_iff]
    simp
  have hback : (xs.toList.drop (partitionPoint xs p)).filter (!p ·) =
      xs.toList.drop (partitionPoint xs p) := by
    rw [List.filter_eq_self]
    intro x hx
    obtain ⟨i, hi, rfl⟩ := List.mem_drop_iff_getElem.mp hx
    have hlt := lt_partitionPoint_iff hp (partitionPoint xs p + i) (by simp at hi; omega)
    rw [Array.getElem_toList, Bool.not_eq_true', ← Bool.not_eq_true, hlt]
    omega
  calc xs.toList.drop (partitionPoint xs p)
      = (xs.toList.take (partitionPoint xs p)).filter (!p ·) ++
          (xs.toList.drop (partitionPoint xs p)).filter (!p ·) := by
        rw [hfront, hback, List.nil_append]
    _ = xs.toList.filter (!p ·) := by rw [← List.filter_append, List.take_append_drop]

/-- What stands in front of a partition point ends in the last element that satisfies the
predicate. -/
theorem getLast?_filter_eq (hp : xs.toList.Pairwise fun a b => p b = true → p a = true) :
    (xs.toList.filter p).getLast? =
      match partitionPoint xs p with
      | 0 => none
      | i + 1 => xs[i]? := by
  have hle := partitionPoint_le xs p
  rw [← take_partitionPoint hp]
  cases hpoint : partitionPoint xs p with
  | zero => rfl
  | succ i =>
    rw [hpoint] at hle
    have hlength : (xs.toList.take (i + 1)).length = i + 1 := by
      rw [List.length_take, Array.length_toList]
      omega
    rw [List.getLast?_eq_getElem?, hlength, Nat.add_sub_cancel,
      List.getElem?_take_of_lt (Nat.lt_succ_self i), Array.getElem?_toList]

end Retrace
