/-!
# What readers leave

A reader takes something off the front of a list and leaves a rest that is shorter than the list.
That the rest carries this fact is what makes loops of readers end.
-/

namespace Retrace

/-- What is left of a list when something has been taken off its front. -/
abbrev Rest {α : Type} (items : List α) := { rest : List α // rest.length < items.length }

namespace Rest

variable {α : Type} {items : List α}

/-- What is left when the first item has been taken. -/
def tail (item : α) (rest : List α) : Rest (item :: rest) :=
  ⟨rest, Nat.lt_succ_self rest.length⟩

/-- What is left when the first item and as many as `count` further ones have been taken. -/
def tailDrop (item : α) (count : Nat) (rest : List α) : Rest (item :: rest) :=
  ⟨rest.drop count, Nat.lt_succ_of_le (List.length_drop ▸ Nat.sub_le rest.length count)⟩

/-- What is left of a list with one more item before it, which has been taken, too. -/
def behind (item : α) (rest : Rest items) : Rest (item :: items) :=
  ⟨rest.val, Nat.lt_succ_of_lt rest.property⟩

/-- What is left when something has been taken off a rest. -/
def further (rest : Rest items) (next : Rest rest.val) : Rest items :=
  ⟨next.val, Nat.lt_trans next.property rest.property⟩

/-- The first item of a rest, and what is left when it has been taken, too. -/
def uncons? : Rest items → Option (α × Rest items)
  | ⟨[], _⟩ => none
  | ⟨item :: rest, h⟩ => some (item, ⟨rest, Nat.lt_of_succ_lt h⟩)

/-- What is left of a list that is no longer than another one, as a rest of the other one. -/
def ofShorter {shorter : List α} (h : shorter.length ≤ items.length) (rest : Rest shorter) :
    Rest items :=
  ⟨rest.val, Nat.lt_of_lt_of_le rest.property h⟩

end Rest

/-- Dropping a prefix by a predicate does not lengthen a list. -/
theorem length_dropWhile_le {α : Type} (p : α → Bool) (items : List α) :
    (items.dropWhile p).length ≤ items.length :=
  (List.dropWhile_suffix p).length_le

end Retrace
