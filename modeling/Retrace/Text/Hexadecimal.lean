/-!
# Hexadecimal digits

The values of the digits `0` to `9`, `a` to `f` and `A` to `F`, given as characters or as bytes.
-/

namespace Retrace.Hexadecimal

/-- The value of the hexadecimal digit with a code of ASCII. -/
def digit? (code : Nat) : Option Nat :=
  if 48 ≤ code ∧ code ≤ 57 then some (code - 48)
  else if 65 ≤ code ∧ code ≤ 70 then some (code - 55)
  else if 97 ≤ code ∧ code ≤ 102 then some (code - 87)
  else none

/-- The number that a list of hexadecimal digits stands for; nothing on any other character. -/
def value? (text : List Char) : Option Nat :=
  text.foldlM (fun acc c => do return acc * 16 + (← digit? c.toNat)) 0

end Retrace.Hexadecimal
