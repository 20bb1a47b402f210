import Mathlib.Tactic.SplitIfs
import Retrace.Json.Value
import Retrace.Proofs.Json.Record

/-!
# Printed values

A printed value is a document that states the value (`isDocument_print`), so that everything that is
known of documents holds for it, and a printed record is read as what its members give
(`Shape.read_print`): a number is written with as few digits as possible, and each
character of a text so that it is no mark inside the text.
-/

namespace Retrace.Json

/-! ### Numbers -/

/-- A natural number, written in digits alone. -/
def Numeral.ofNat (n : Nat) : Numeral :=
  ⟨false, (Nat.toDigits 10 n).map fun c => c.toNat - 48, none, none⟩

/-- A decimal digit is the digit of its value. -/
theorem digitChar_of_isDigit {c : Char} (h : c.isDigit = true) :
    c.toNat - 48 < 10 ∧ Nat.digitChar (c.toNat - 48) = c := by
  have hrange : 48 ≤ c.toNat ∧ c.toNat ≤ 57 := by
    simpa [Char.isDigit, UInt32.le_iff_toNat_le] using h
  have hlt : c.toNat - 48 < 10 := by omega
  refine ⟨hlt, Char.toNat_inj.mp ?_⟩
  rw [Nat.toNat_digitChar_of_lt_ten hlt]
  omega

/-- The digits of a number are decimal. -/
theorem isDigit_of_mem_toDigits {n : Nat} {c : Char} (h : c ∈ Nat.toDigits 10 n) :
    c.isDigit = true :=
  Nat.isDigit_of_mem_toDigits (by decide) (by decide) h

/-- Only zero is written with a zero in front. -/
theorem eq_zero_of_head?_toDigits {n : Nat} (h : (Nat.toDigits 10 n).head? = some '0') : n = 0 := by
  induction n using Nat.strongRecOn with
  | ind n ih =>
    by_cases hlt : n < 10
    · rw [Nat.toDigits_of_lt_base hlt, List.head?_cons, Option.some.injEq] at h
      have hcode := congrArg Char.toNat h
      rw [Nat.toNat_digitChar_of_lt_ten hlt] at hcode
      change 48 + n = 48 at hcode
      omega
    · rw [Nat.toDigits_of_base_le (by decide) (by omega),
        List.head?_append_of_ne_nil _ Nat.toDigits_ne_nil] at h
      have hzero := ih (n / 10) (by omega) h
      omega

/-- The digits of a number are its numeral. -/
theorem isNumeral_toDigits (n : Nat) : IsNumeral (.ofNat n) (Nat.toDigits 10 n) := by
  have hdigit (c : Char) (hc : c ∈ Nat.toDigits 10 n) :=
    digitChar_of_isDigit (isDigit_of_mem_toDigits hc)
  have hchars : ((Nat.toDigits 10 n).map fun c => c.toNat - 48).map Nat.digitChar =
      Nat.toDigits 10 n := by
    rw [List.map_map]
    exact (List.map_congr_left fun c hc => (hdigit c hc).2).trans (List.map_id _)
  have hdigits : AreDigits ((Nat.toDigits 10 n).map fun c => c.toNat - 48) := by
    refine ⟨by simp [Nat.toDigits_ne_nil], fun digit hmem => ?_⟩
    obtain ⟨c, hc, rfl⟩ := List.mem_map.mp hmem
    exact (hdigit c hc).1
  have hzero : ((Nat.toDigits 10 n).map fun c => c.toNat - 48).head? = some 0 →
      ((Nat.toDigits 10 n).map fun c => c.toNat - 48) = [0] := by
    intro hhead
    obtain ⟨c, hc, hcode⟩ : ∃ c, (Nat.toDigits 10 n).head? = some c ∧ c.toNat - 48 = 0 := by
      simpa using hhead
    have hc' := (hdigit c (List.mem_of_head? hc)).2
    rw [hcode] at hc'
    rw [← hc'] at hc
    obtain rfl : n = 0 := eq_zero_of_head?_toDigits hc
    rfl
  have hnumeral : IsNumeral (.ofNat n) _ := .intro hdigits hzero .absent .absent
  rw [hchars, List.append_nil, List.append_nil] at hnumeral
  exact hnumeral

/-- A numeral stands for the number that it is written for. -/
theorem valueOf_ofNat (n : Nat) : Numeral.valueOf (Numeral.ofNat n).whole = n := by
  have hvalue : Nat.ofDigitChars 10 (Nat.toDigits 10 n) 0 = n :=
    Nat.ofDigitChars_toDigits (by decide) (by decide)
  unfold Numeral.valueOf Numeral.ofNat
  rw [List.foldl_map]
  calc (Nat.toDigits 10 n).foldl (fun acc c => acc * 10 + (c.toNat - 48)) 0
    _ = Nat.ofDigitChars 10 (Nat.toDigits 10 n) 0 := by
      simp only [Nat.ofDigitChars, Nat.mul_comm 10]
      rfl
    _ = n := hvalue

/-- A number of 32 bits is decoded as it is written. -/
theorem word?_ofNat (n : UInt32) : Tree.word? (.number (.ofNat n.toNat)) = some n := by
  show (if Numeral.valueOf (Numeral.ofNat n.toNat).whole < UInt32.size then
    some (UInt32.ofNat (Numeral.valueOf (Numeral.ofNat n.toNat).whole)) else none) = some n
  rw [valueOf_ofNat, if_pos n.toNat_lt_size, UInt32.ofNat_toNat]

/-! ### Texts -/

/-- Each character is written so that it is spelled. -/
theorem spells_escapeChar (c : Char) : Spells c (Value.escapeChar c) := by
  unfold Value.escapeChar
  split_ifs with hquote hslash hfeed hreturn htab hback hform hcontrol
  · subst hquote
    exact .short (by decide)
  · subst hslash
    exact .short (by decide)
  · subst hfeed
    exact .short (by decide)
  · subst hreturn
    exact .short (by decide)
  · subst htab
    exact .short (by decide)
  · subst hback
    exact .short (by decide)
  · subst hform
    exact .short (by decide)
  · have hlt : c.toNat < 32 := hcontrol
    have hzero : IsHexDigit 0 '0' := ⟨by decide, .inl rfl⟩
    exact .unit (.intro hzero hzero ⟨by omega, .inl rfl⟩ ⟨by omega, .inl rfl⟩ (by omega))
  · exact .plain hquote hslash (Nat.not_lt.mp hcontrol)

/-- The characters of a content are spelled one after the other. -/
theorem isContent_flatMap (content : List Char) :
    IsContent content (content.flatMap Value.escapeChar) := by
  induction content with
  | nil => exact .nil
  | cons c content ih => exact .cons (spells_escapeChar c) ih

/-- A printed text is one. -/
theorem isText_printText (content : String) : IsText (some content) (Value.printText content) :=
  .content (isContent_flatMap content.toList)

/-! ### Values -/

mutual

/-- The value that a printed value states. -/
def Value.tree : Value → Tree
  | .null => .null
  | .bool value => .bool value
  | .number n => .number (.ofNat n)
  | .text content => .text (some content)
  | .list elements => .list (elementTrees elements)
  | .record members => .object (memberTrees members)

/-- The values that printed elements state. -/
def Value.elementTrees : List Value → List Tree
  | [] => []
  | value :: values => value.tree :: elementTrees values

/-- The values that printed members state, with their names. -/
def Value.memberTrees : List (String × Value) → List (String × Tree)
  | [] => []
  | (name, value) :: members => (name, value.tree) :: memberTrees members

end

/-- Nothing is insignificant. -/
theorem isSpacing_nil : IsSpacing [] := fun _ h => by cases h

/-- A value that is stated is stated between no insignificant characters. -/
theorem IsValue.isElement {tree : Tree} {text : List Char} (h : IsValue tree text) :
    IsElement tree text := by
  simpa using IsElement.intro isSpacing_nil h isSpacing_nil

/-- A name, a colon and a value are a member. -/
theorem IsValue.isMember {name : String} {tree : Tree} {text : List Char} (h : IsValue tree text) :
    IsMember (some name, tree) (Value.printText name ++ ':' :: text) := by
  simpa using IsMember.intro isSpacing_nil (isText_printText name) isSpacing_nil h.isElement

mutual

/-- A printed value is stated. -/
theorem isValue_print : ∀ value : Value, IsValue value.tree value.print
  | .null => .null
  | .bool true => .true
  | .bool false => .false
  | .number n => .number (isNumeral_toDigits n)
  | .text content => .text (isText_printText content)
  | .list [] => .emptyList isSpacing_nil
  | .list (value :: values) => .list (areElements_print (value :: values) (List.cons_ne_nil _ _))
  | .record [] => .emptyRecord isSpacing_nil
  | .record (member :: members) =>
    .record (areMembers_print (member :: members) (List.cons_ne_nil _ _))

/-- Printed elements are stated. -/
theorem areElements_print : ∀ values : List Value, values ≠ [] →
    AreElements (Value.elementTrees values) (Value.printElements values)
  | [], hne => absurd rfl hne
  | [value], _ => .last (isValue_print value).isElement
  | value :: next :: values, _ =>
    .cons (isValue_print value).isElement (areElements_print (next :: values) (List.cons_ne_nil _ _))

/-- Printed members are stated. -/
theorem areMembers_print : ∀ members : List (String × Value), members ≠ [] →
    AreMembers ((Value.memberTrees members).map fun m => (some m.1, m.2))
      (Value.printMembers members)
  | [], hne => absurd rfl hne
  | [(_, value)], _ => .last (isValue_print value).isMember
  | (_, value) :: next :: members, _ =>
    .cons (isValue_print value).isMember (areMembers_print (next :: members) (List.cons_ne_nil _ _))

end

/-- A printed value is a document that states the value. -/
theorem isDocument_print (value : Value) :
    IsDocument value.tree (Text.Utf8.encode value.print) :=
  ⟨value.print, (isValue_print value).isElement, rfl⟩

/-- A printed record is read as what its members give. -/
theorem Shape.read_print {α : Type} {shape : Shape α} (hregular : shape.IsRegular) {initial a : α}
    {members : List (String × Value)} (hnodup : (members.map Prod.fst).Nodup)
    (h : assemble? ((Value.memberTrees members).lookup ·) shape.members initial = some a) :
    read (shape.reader initial) (Text.Utf8.encode (Value.record members).print) = .ok a := by
  have hnames : (Value.memberTrees members).map Prod.fst = members.map Prod.fst := by
    clear hnodup h
    induction members with
    | nil => rfl
    | cons member members ih => exact congrArg (member.1 :: ·) ih
  have honce : shape.StatesOnce ((Value.memberTrees members).map Prod.fst) :=
    .of_nodup (hnames ▸ hnodup)
  exact (read_eq_ok_iff (takes_object hregular honce initial)
    (isDocument_print (.record members))).mpr h

end Retrace.Json
