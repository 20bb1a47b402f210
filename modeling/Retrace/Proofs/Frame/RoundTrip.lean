import Retrace.Proofs.Frame.Grammar

/-!
# Writing frames and reading them back

A printed frame is read back from its line, behind blanks and an `at`. Its text is of the grammar
by the way it is put together (`isNamedCall_print`, `isAnonymousCall_print`), and it is the core of
its line because neither end of it is blank (`core_indent_at`, `core_indent`). The cut of a named
call is where it was put together, since its file has no parenthesis behind a space.
-/

namespace Retrace.Frame

variable {name file : String} {line column : UInt32}

/-! ### The text of a frame -/

/-- A number is written in digits that stand for it. -/
theorem isCoordinate_toDigits (value : UInt32) :
    IsCoordinate (Nat.toDigits 10 value.toNat) value :=
  digits?_eq_some_iff_isCoordinate.mp (Decimal.digits?_toDigits value.toNat_lt)

/-- The place of a frame is its file and the digits of its line and column. -/
theorem toList_location (frame : Frame) :
    frame.location.toList = frame.file.toList ++ ':' ::
      (Nat.toDigits 10 frame.line.toNat ++ ':' :: Nat.toDigits 10 frame.column.toNat) := by
  show (frame.file ++ ":" ++ frame.line.toNat.repr ++ ":" ++ frame.column.toNat.repr).toList = _
  simp [Nat.toList_repr]

/-- A printed frame with a name is a named call. -/
theorem isNamedCall_print (hname : name ≠ "" ∧ '\n' ∉ name.toList)
    (hfile : file ≠ "" ∧ '\n' ∉ file.toList) :
    IsNamedCall (print ⟨some name, file, line, column⟩).toList ⟨some name, file, line, column⟩ := by
  refine ⟨name, _, _, rfl, ?_, hname, hfile, isCoordinate_toDigits line,
    isCoordinate_toDigits column⟩
  show (name ++ " (" ++ location ⟨some name, file, line, column⟩ ++ ")").toList = _
  simp [toList_location]

/-- A printed frame without a name is an anonymous call. -/
theorem isAnonymousCall_print (hroot : HasRoot file.toList) (hline : '\n' ∉ file.toList) :
    IsAnonymousCall (print ⟨none, file, line, column⟩).toList ⟨none, file, line, column⟩ :=
  ⟨_, _, rfl, toList_location _, ⟨hroot, hline⟩, isCoordinate_toDigits line,
    isCoordinate_toDigits column⟩

/-! ### The core of a line -/

/-- Letters, digits and the signs of schemes are not blank. -/
theorem isBlank_eq_false_of_isSchemeChar {c : Char} (h : isSchemeChar c = true) :
    Unicode.isBlank c = false := by
  have hrange : 33 ≤ c.toNat ∧ c.toNat ≤ 126 := by
    rcases isSchemeChar_iff.mp h with h | rfl | rfl | rfl
    · have hcode := Text.isAlphanum_iff.mp h
      omega
    all_goals decide
  exact Text.isBlank_eq_false_of_isVisible hrange

/-- Behind blanks and an `at`, a text without blanks at its ends is the core. -/
theorem core_indent_at {indent text : List Char}
    (hindent : ∀ c ∈ indent, Unicode.isBlank c = true) (htext : Text.IsTrim text text)
    (hne : text ≠ []) : core (indent ++ ['a', 't', ' '] ++ text) = text := by
  symm
  refine isCore_iff.mp ⟨['a', 't', ' '] ++ text, text, ?_, ?_, htext⟩
  · refine ⟨⟨indent, [], by simp, hindent, by simp⟩, ?_, ?_⟩
    · intro c hc
      cases hc
      rfl
    · rw [Text.getLast?_append_of_ne_nil hne]
      exact htext.last
  · exact .inl ⟨[' '], rfl, List.cons_ne_nil _ _, List.all_eq_true.mp (by decide), htext.head⟩

/-- Behind blanks, a text without blanks at its ends that does not start with an `at` and a blank is
the core. -/
theorem core_indent {indent text : List Char}
    (hindent : ∀ c ∈ indent, Unicode.isBlank c = true) (htext : Text.IsTrim text text)
    (hat : ∀ c rest, text = 'a' :: 't' :: c :: rest → Unicode.isBlank c = false) :
    core (indent ++ text) = text := by
  symm
  refine isCore_iff.mp ⟨text, text, ?_, .inr ⟨rfl, hat⟩, htext⟩
  exact ⟨⟨indent, [], by simp, hindent, by simp⟩, htext.head, htext.last⟩

/-! ### Ends of the text of a frame -/

/-- A root does not start with a blank, nor with an `at` that a blank follows. -/
theorem IsRoot.isBlank_eq_false {root : List Char} (h : IsRoot root) (tail : List Char) :
    (∀ c ∈ (root ++ tail).head?, Unicode.isBlank c = false) ∧
      ∀ c rest, root ++ tail = 'a' :: 't' :: c :: rest → Unicode.isBlank c = false := by
  have hletter {c : Char} (h : c.isAlpha = true) : Unicode.isBlank c = false :=
    isBlank_eq_false_of_isSchemeChar (by simp [isSchemeChar, Char.isAlphanum, h])
  cases h with
  | slash =>
    refine ⟨?_, fun c rest h => by simp at h⟩
    intro c hc
    cases hc
    rfl
  | drive hdrive hseparator =>
    refine ⟨?_, fun c rest h => by simp at h⟩
    intro c hc
    cases hc
    exact hletter hdrive
  | @scheme first name hfirst hname =>
    refine ⟨?_, fun c rest h => ?_⟩
    · intro c hc
      cases hc
      exact hletter hfirst
    · -- Behind the first two letters comes one more of the scheme, or the colon.
      rcases name with - | ⟨second, - | ⟨third, name⟩⟩
      · simp at h
      · obtain ⟨-, -, hcolon, -⟩ : first = 'a' ∧ second = 't' ∧ ':' = c ∧ _ := by simpa using h
        exact hcolon ▸ rfl
      · obtain ⟨-, -, rfl, -⟩ : first = 'a' ∧ second = 't' ∧ third = c ∧ _ := by simpa using h
        exact isBlank_eq_false_of_isSchemeChar (isSchemeChar_iff.mpr (hname third (by simp)))

/-- A named call is not empty. -/
theorem IsNamedCall.ne_nil {text : List Char} {frame : Frame} (h : IsNamedCall text frame) :
    text ≠ [] := by
  obtain ⟨name, l, c, -, rfl, -⟩ := h
  simp

/-- An anonymous call is not empty. -/
theorem IsAnonymousCall.ne_nil {text : List Char} {frame : Frame} (h : IsAnonymousCall text frame) :
    text ≠ [] := by
  obtain ⟨l, c, -, rfl, -⟩ := h
  simp

/-- A named call whose name does not start with a blank has no blanks at its ends. -/
theorem IsNamedCall.isTrim {text : List Char} {frame : Frame} (h : IsNamedCall text frame)
    (hhead : ∀ name ∈ frame.methodName, ∀ c ∈ name.toList.head?, Unicode.isBlank c = false) :
    Text.IsTrim text text := by
  refine Text.isTrim_self ?_ ?_
  · obtain ⟨name, l, c, hmethod, htext, ⟨hname, -⟩, -⟩ := h
    intro d hd
    refine hhead name hmethod d ?_
    obtain ⟨b, rest, hb⟩ := List.exists_cons_of_ne_nil (by simpa using hname : name.toList ≠ [])
    rw [htext, hb] at hd
    rw [hb]
    exact hd
  · rw [h.getLast?_eq]
    intro c hc
    cases hc
    rfl

/-- An anonymous call has no blanks at its ends. -/
theorem IsAnonymousCall.isTrim {text : List Char} {frame : Frame} (h : IsAnonymousCall text frame) :
    Text.IsTrim text text := by
  refine Text.isTrim_self ?_ fun c hc => ?_
  · obtain ⟨l, c, -, htext, ⟨⟨root, rest, hroot, -, hfile⟩, -⟩, -⟩ := h
    rw [htext, hfile, List.append_assoc]
    exact (hroot.isBlank_eq_false _).1
  · refine isBlank_eq_false_of_isSchemeChar ?_
    simp [isSchemeChar, Char.isAlphanum, h.isDigit_getLast? c hc]

/-- An anonymous call does not start with an `at` that a blank follows. -/
theorem IsAnonymousCall.isBlank_eq_false {text rest : List Char} {frame : Frame} {c : Char}
    (h : IsAnonymousCall text frame) (hat : text = 'a' :: 't' :: c :: rest) :
    Unicode.isBlank c = false := by
  obtain ⟨l, c', -, htext, ⟨⟨root, tail, hroot, -, hfile⟩, -⟩, -⟩ := h
  rw [htext, hfile, List.append_assoc] at hat
  exact (hroot.isBlank_eq_false _).2 c rest hat

/-! ### Reading back -/

/-- A printed frame is read back, behind blanks and an `at`, which a frame without a name may also
lack: whatever the name holds, if it does not start with a blank, and whatever the file holds, if no
parenthesis follows a space in the file of a frame with a name. -/
theorem read_print_spec (line column : UInt32) (indent : String)
    (hindent : ∀ c ∈ indent.toList, Unicode.isBlank c = true) :
    (∀ name file : String, name ≠ "" → '\n' ∉ name.toList →
      (∀ c ∈ name.toList.head?, Unicode.isBlank c = false) → file ≠ "" → '\n' ∉ file.toList →
      ¬ " (".toList <:+: file.toList →
      read? (indent ++ "at " ++ print ⟨some name, file, line, column⟩) =
        some ⟨some name, file, line, column⟩) ∧
    (∀ file : String, HasRoot file.toList → '\n' ∉ file.toList →
      read? (indent ++ print ⟨none, file, line, column⟩) = some ⟨none, file, line, column⟩ ∧
      read? (indent ++ "at " ++ print ⟨none, file, line, column⟩) =
        some ⟨none, file, line, column⟩) := by
  have hat (text : String) : (indent ++ "at " ++ text).toList =
      indent.toList ++ ['a', 't', ' '] ++ text.toList := by
    rw [String.toList_append, String.toList_append]
    rfl
  refine ⟨fun name file hname hnameLine hhead hfile hfileLine hopening => ?_,
    fun file hroot hfileLine => ?_⟩
  · have hcall : IsNamedCall (print ⟨some name, file, line, column⟩).toList _ :=
      isNamedCall_print ⟨hname, hnameLine⟩ ⟨hfile, hfileLine⟩
    refine read?_eq_some_iff.mpr (.inl ⟨?_, ?_⟩)
    · rw [hat, core_indent_at hindent (hcall.isTrim (by simpa using hhead)) hcall.ne_nil]
      exact hcall
    · rintro ⟨before, after, hcut, -⟩
      exact hopening ⟨before, after, by simpa using hcut.symm⟩
  · have hcall : IsAnonymousCall (print ⟨none, file, line, column⟩).toList _ :=
      isAnonymousCall_print hroot hfileLine
    constructor
    · refine read?_eq_some_iff.mpr (.inr ?_)
      rw [String.toList_append, core_indent hindent hcall.isTrim
        fun c rest h => hcall.isBlank_eq_false h]
      exact hcall
    · refine read?_eq_some_iff.mpr (.inr ?_)
      rw [hat, core_indent_at hindent hcall.isTrim hcall.ne_nil]
      exact hcall

/-- A name with a place of its own in parentheses, and a file with parentheses and a number behind
a colon, are read back. -/
theorem read_print_spec_parentheses :
    read? ("\t" ++ "at " ++ print ⟨some "f (g:1:2)", "(h:3", 4294967295, 0⟩) =
      some ⟨some "f (g:1:2)", "(h:3", 4294967295, 0⟩ ∧
    read? ("\t" ++ print ⟨none, "/a (b):3", 0, 7⟩) = some ⟨none, "/a (b):3", 0, 7⟩ := by
  have hindent : ∀ c ∈ "\t".toList, Unicode.isBlank c = true := List.all_eq_true.mp (by decide)
  have hroot : HasRoot "/a (b):3".toList :=
    ⟨['/'], "a (b):3".toList, .slash, by decide +kernel, by decide +kernel⟩
  have hname : ∀ c ∈ "f (g:1:2)".toList.head?, Unicode.isBlank c = false := by
    intro c hc
    cases hc
    rfl
  constructor
  · exact (read_print_spec 4294967295 0 "\t" hindent).1 "f (g:1:2)" "(h:3" (by decide)
      (by decide +kernel) hname (by decide) (by decide +kernel) (by decide +kernel)
  · exact ((read_print_spec 0 7 "\t" hindent).2 "/a (b):3" hroot (by decide +kernel)).1

end Retrace.Frame
