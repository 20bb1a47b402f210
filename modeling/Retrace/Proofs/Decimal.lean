import Retrace.Proofs.Text
import Retrace.Text.Decimal

/-!
# Decimal numbers

Reading digits gives the number that they stand for, when it is below the bound, and reads nothing
else (`digits?_eq_some_iff`). The digits that a number is written in are read back to it
(`digits?_toDigits`).
-/

namespace Retrace.Decimal

/-- Digits are read on from a number, and nothing but digits is. -/
theorem value?_eq_some_iff {text : List Char} {value : Nat} :
    ∀ {acc : Nat}, value? acc text = some value ↔
      (∀ c ∈ text, c.isDigit = true) ∧ Nat.ofDigitChars 10 text acc = value := by
  induction text with
  | nil => intro acc; simp [value?]
  | cons c text ih =>
    intro acc
    rw [value?, Nat.ofDigitChars_cons, Nat.mul_comm]
    by_cases hc : c.isDigit = true
    · simp [hc, ih]
    · simp [hc]

/-- Digits are read as the number that they stand for, if it is below the bound. -/
theorem digits?_eq_some_iff {bound value : Nat} {text : List Char} :
    digits? bound text = some value ↔
      text ≠ [] ∧ (∀ c ∈ text, c.isDigit = true) ∧ Nat.ofDigitChars 10 text 0 = value ∧
        value < bound := by
  unfold digits?
  cases text with
  | nil => simp
  | cons c text =>
    rw [if_neg (by simp), Option.filter_eq_some_iff, value?_eq_some_iff, decide_eq_true_iff]
    simp only [ne_eq, reduceCtorEq, not_false_eq_true, true_and, and_assoc]

/-- Where a plus sign may stand, digits are read behind it or without it. -/
theorem signed?_eq_some_iff {bound value : Nat} {text : List Char} :
    signed? bound text = some value ↔ ∃ digits, (text = digits ∨ text = '+' :: digits) ∧
      digits? bound digits = some value := by
  unfold signed?
  split
  next rest =>
    constructor
    · exact fun h => ⟨rest, .inr rfl, h⟩
    · rintro ⟨digits, rfl | htext, h⟩
      · -- A plus sign is no digit.
        exact absurd ((digits?_eq_some_iff.mp h).2.1 '+' List.mem_cons_self) (by decide)
      · cases htext
        exact h
  next hno =>
    constructor
    · exact fun h => ⟨text, .inl rfl, h⟩
    · rintro ⟨digits, rfl | htext, h⟩
      · exact h
      · exact absurd htext (hno digits)

/-- The digits of a number below the bound are read back. -/
theorem digits?_toDigits {bound value : Nat} (h : value < bound) :
    digits? bound (Nat.toDigits 10 value) = some value :=
  digits?_eq_some_iff.mpr ⟨Nat.toDigits_ne_nil,
    fun _ hc => Nat.isDigit_of_mem_toDigits (by decide) (by decide) hc,
    Nat.ofDigitChars_toDigits (by decide) (by decide), h⟩

/-- The digits of a number below the bound are read back, too, where a plus sign may stand. -/
theorem signed?_toDigits {bound value : Nat} (h : value < bound) :
    signed? bound (Nat.toDigits 10 value) = some value :=
  signed?_eq_some_iff.mpr ⟨_, .inl rfl, digits?_toDigits h⟩

/-- Blanks around the digits of a number are what trimming removes. -/
theorem isTrim_toDigits {front back : List Char} (hfront : ∀ c ∈ front, Unicode.isBlank c = true)
    (hback : ∀ c ∈ back, Unicode.isBlank c = true) (value : Nat) :
    Text.IsTrim (front ++ Nat.toDigits 10 value ++ back) (Nat.toDigits 10 value) := by
  have hblank : ∀ c ∈ Nat.toDigits 10 value, Unicode.isBlank c = false := by
    intro c hc
    have hdigit : c.isDigit = true := Nat.isDigit_of_mem_toDigits (by decide) (by decide) hc
    have hcode := Text.isAlphanum_iff.mp (by simp [Char.isAlphanum, hdigit] : c.isAlphanum = true)
    exact Text.isBlank_eq_false_of_isVisible (by omega)
  exact ⟨⟨front, back, rfl, hfront, hback⟩, fun c hc => hblank c (List.mem_of_mem_head? hc),
    fun c hc => hblank c (List.mem_of_mem_getLast? hc)⟩

end Retrace.Decimal
