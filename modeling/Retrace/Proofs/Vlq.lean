import Mathlib.Tactic.Ring
import Retrace.Vlq

/-!
# Writing and reading numbers

A written segment is read back, whatever its numbers are: `read_write`. The bits of a number of 32
bits stay below `2 ^ 33`, and so a group has at most the seven digits that the reader allows.
-/

namespace Retrace.Vlq

/-- A digit has its value. -/
theorem digit?_digitChar {value : Nat} (h : value < 64) :
    digit? (digitChar value) = some value := by
  have hall : ∀ v : Fin 64, digit? (digitChar v) = some v.val := by decide
  exact hall ⟨value, h⟩

/-- The bits of a number are those of at most seven digits. -/
theorem bitsOf_lt (number : Int32) : bitsOf number < 32 ^ 7 := by
  have hmin := number.minValue_le_toInt
  have hmax := number.toInt_le
  rw [Int32.toInt_minValue] at hmin
  rw [Int32.toInt_maxValue] at hmax
  unfold bitsOf
  dsimp only
  split <;> omega

/-- A number is told by its bits. -/
theorem number?_bitsOf (number : Int32) : number? (bitsOf number) = some number := by
  have hsigned : (if bitsOf number % 2 = 1 then -((bitsOf number : Int) / 2)
      else (bitsOf number : Int) / 2) = number.toInt := by
    unfold bitsOf
    dsimp only
    split <;> split <;> omega
  simp only [number?, hsigned]
  rw [if_pos ⟨number.minValue_le_toInt, number.toInt_le⟩, Int32.ofInt_toInt]

/-- Reading the digits of a group, of which `count` went before, finishes the group. -/
theorem readFrom_writeBits (value : Nat) (rest : List Char) :
    ∀ bits count : Nat, count ≤ 6 → value < 32 ^ (7 - count) →
      readFrom bits count (writeBits value ++ rest) =
        match number? (bits + value * 32 ^ count) with
        | none => .error .overflow
        | some number => (readFrom 0 0 rest).map (number :: ·) := by
  fun_induction writeBits value with
  | case1 value h =>
    intro bits count _ _
    -- The value is the last digit.
    have hdigit := digit?_digitChar (show value < 64 by omega)
    simp only [List.singleton_append, readFrom, hdigit, Nat.mod_eq_of_lt h, Nat.not_le.mpr h,
      if_false]
    rfl
  | case2 value h ih =>
    intro bits count hcount hvalue
    have hdigit := digit?_digitChar (show value % 32 + 32 < 64 by omega)
    -- A value with further digits leaves room for them.
    have hroom : ¬ 6 ≤ count := by
      intro h6
      have : 7 - count = 1 := by omega
      rw [this] at hvalue
      omega
    have hnext : value / 32 < 32 ^ (7 - (count + 1)) := by
      have : 7 - count = 7 - (count + 1) + 1 := by omega
      rw [this, Nat.pow_succ] at hvalue
      omega
    have hsplit : (value % 32 + 32) % 32 + value / 32 * 32 = value := by omega
    have hbits : bits + (value % 32 + 32) % 32 * Nat.pow 32 count +
        value / 32 * 32 ^ (count + 1) = bits + value * 32 ^ count :=
      calc bits + (value % 32 + 32) % 32 * 32 ^ count + value / 32 * 32 ^ (count + 1)
          = bits + ((value % 32 + 32) % 32 + value / 32 * 32) * 32 ^ count := by ring
        _ = bits + value * 32 ^ count := by rw [hsplit]
    simp only [List.cons_append, readFrom, hdigit, hroom, if_false,
      show 32 ≤ value % 32 + 32 by omega, if_true]
    rw [ih _ (count + 1) (by omega) hnext, hbits]

/-- A written number is read, and what follows it after it. -/
theorem readFrom_writeNumber (number : Int32) (rest : List Char) :
    readFrom 0 0 (writeNumber number ++ rest) = (readFrom 0 0 rest).map (number :: ·) := by
  unfold writeNumber
  rw [readFrom_writeBits _ _ 0 0 (by omega) (bitsOf_lt number)]
  simp [number?_bitsOf]

/-- Written numbers are read back. -/
theorem read_write (numbers : List Int32) : read (write numbers) = .ok numbers := by
  induction numbers with
  | nil => rfl
  | cons number numbers ih =>
    rw [write] at ih
    rw [read, write, List.flatMap_cons, readFrom_writeNumber, ← read, ih]
    rfl

/-- A group has a digit. -/
theorem writeNumber_ne_nil (number : Int32) : writeNumber number ≠ [] := by
  unfold writeNumber
  rw [writeBits]
  split <;> simp

/-- A group consists of digits. -/
theorem exists_digit_of_mem_writeBits {bits : Nat} {c : Char} (h : c ∈ writeBits bits) :
    ∃ value < 64, c = digitChar value := by
  fun_induction writeBits bits with
  | case1 bits hbits =>
    rw [List.mem_singleton] at h
    exact ⟨bits, by omega, h⟩
  | case2 bits hbits ih =>
    rcases List.mem_cons.mp h with rfl | h
    · exact ⟨bits % 32 + 32, by omega, rfl⟩
    · exact ih h

/-- A segment consists of digits. -/
theorem digit?_isSome_of_mem_write {numbers : List Int32} {c : Char} (h : c ∈ write numbers) :
    (digit? c).isSome := by
  obtain ⟨number, -, hc⟩ := List.mem_flatMap.mp h
  obtain ⟨value, hvalue, rfl⟩ := exists_digit_of_mem_writeBits hc
  rw [digit?_digitChar hvalue, Option.isSome_some]

end Retrace.Vlq
