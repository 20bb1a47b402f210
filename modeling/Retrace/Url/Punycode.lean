import Retrace.Text.Utf8

/-!
# Punycode

The ASCII form of a label with characters beyond ASCII: the ASCII characters, a hyphen, and then for
the others, in the order of their codes, how far each stands behind the one before, as a number of
variable length whose digits adapt to the numbers met so far.
-/

namespace Retrace.Url.Punycode

/-- The digit of a value below 36: a letter or a decimal digit. -/
def digitChar (value : Nat) : Char :=
  if value < 26 then Char.ofNat (97 + value) else Char.ofNat (22 + value)

/-- The value of a digit. -/
def digitValue? (c : Char) : Option Nat :=
  let n := c.toNat
  if 97 ≤ n ∧ n ≤ 122 then some (n - 97)
  else if 65 ≤ n ∧ n ≤ 90 then some (n - 65)
  else if 48 ≤ n ∧ n ≤ 57 then some (n - 22)
  else none

/-- The least value of a digit, of weight `k`, after which its number goes on. -/
def threshold (k bias : Nat) : Nat :=
  if k ≤ bias then 1 else if bias + 26 ≤ k then 26 else k - bias

/-- Divides until the number is small, counting 36 for each division. -/
def shrink (delta k : Nat) : Nat × Nat :=
  if 455 < delta then shrink (delta / 35) (k + 36) else (delta, k)
termination_by delta
decreasing_by omega

/-- The bias after a number, of which `count` have been met. -/
def adapt (delta count : Nat) (isFirst : Bool) : Nat :=
  let damped := if isFirst then delta / 700 else delta / 2
  let (small, k) := shrink (damped + damped / count) 0
  k + 36 * small / (small + 38)

/-- The digits of a number, from the digit of weight `k` on. -/
def writeNumber (bias k q : Nat) : List Char :=
  let t := threshold k bias
  if q < t then [digitChar q]
  else if t = 0 ∨ 36 ≤ t then []
  else digitChar (t + (q - t) % (36 - t)) :: writeNumber bias (k + 36) ((q - t) / (36 - t))
termination_by q
decreasing_by
  have := Nat.div_le_self (q - threshold k bias) (36 - threshold k bias)
  omega

/-- Where writing stands: the next code, how many characters are placed, the number so far, the
bias. -/
structure State where
  /-- The least code that has not been placed. -/
  code : Nat
  /-- How many characters have been placed. -/
  placed : Nat
  /-- The number so far. -/
  delta : Nat
  /-- The bias. -/
  bias : Nat

/-- Walks the label once, writing a number where the code stands. -/
def writeCode (basic code : Nat) (state : State) : List Char → List Char × State
  | [] => ([], state)
  | c :: label =>
    if c.toNat < code then
      writeCode basic code { state with delta := state.delta + 1 } label
    else if c.toNat = code then
      let digits := writeNumber state.bias 36 state.delta
      let placed := state.placed + 1
      let bias := adapt state.delta placed (state.placed = basic)
      let (more, state) := writeCode basic code { state with placed, delta := 0, bias } label
      (digits ++ more, state)
    else writeCode basic code state label

/-- Writes the given codes, which ascend. -/
def writeCodes (basic : Nat) (label : List Char) (state : State) : List Nat → List Char
  | [] => []
  | code :: codes =>
    -- Each code that is passed over could have stood at any of the places.
    let delta := state.delta + (code - state.code) * (state.placed + 1)
    let (digits, state) := writeCode basic code { state with delta } label
    digits ++ writeCodes basic label { state with code := code + 1, delta := state.delta + 1 } codes

/-- The ASCII form of a label. -/
def encode (label : List Char) : List Char :=
  let basic := label.filter (·.toNat < 128)
  let codes := ((label.map Char.toNat).filter (128 ≤ ·)).mergeSort.eraseDups
  let start := if basic.isEmpty then [] else basic ++ ['-']
  start ++ writeCodes basic.length label ⟨128, basic.length, 0, 72⟩ codes

/-- Reads a number, from the digit of weight `k` on. -/
def readNumber? (bias i w k : Nat) : List Char → Option (Nat × List Char)
  | [] => none
  | c :: rest => do
    let digit ← digitValue? c
    let i := i + digit * w
    let t := threshold k bias
    if digit < t then return (i, rest) else readNumber? bias i (w * (36 - t)) (k + 36) rest

/-- Reading a number takes at least one digit. -/
theorem readNumber?_length_lt {bias i w k n : Nat} {text rest : List Char}
    (h : readNumber? bias i w k text = some (n, rest)) : rest.length < text.length := by
  induction text generalizing i w k with
  | nil => simp [readNumber?] at h
  | cons c text ih =>
    simp only [readNumber?, Option.bind_eq_bind, Option.bind_eq_some_iff] at h
    obtain ⟨digit, _, h⟩ := h
    split at h
    · cases h; simp
    · exact Nat.lt_succ_of_lt (ih h)

/-- Places the characters that numbers stand for among those placed before. -/
def place? (code i bias : Nat) (placed text : List Char) : Option (List Char) :=
  match text with
  | [] => some placed
  | c :: text =>
    match h : readNumber? bias i 1 36 (c :: text) with
    | none => none
    | some (n, rest) =>
      have : rest.length < text.length + 1 := readNumber?_length_lt h
      let count := placed.length + 1
      let code := code + n / count
      if code.isValidChar then
        place? code (n % count + 1) (adapt (n - i) count (i = 0))
          (placed.insertIdx (n % count) (Char.ofNat code)) rest
      else none
termination_by text.length

/-- The label of an ASCII form. -/
def decode? (text : List Char) : Option (List Char) :=
  let backwards := text.reverse
  let (basic, numbers) :=
    match backwards.dropWhile (· ≠ '-') with
    | [] => ([], text)
    | _ :: basic => (basic.reverse, (backwards.takeWhile (· ≠ '-')).reverse)
  place? 128 0 72 basic numbers

end Retrace.Url.Punycode
