import Retrace.Proofs.Frame.RoundTrip

/-!
# Files with parentheses

The text of a frame with a name can be cut in several ways when its file has a parenthesis behind a
space, as in `f (C:\Program Files (x86)\a.js:1:2)`. Such a text is also the text of another frame,
whose name goes on up to that parenthesis (`print_append`), and of all these frames the reader finds
the one with the shortest file. So a frame is read back exactly when its file has no such
parenthesis (`read_call_iff`), and otherwise the front of the file ends up in the name
(`read_call_spec`).
-/

namespace Retrace.Frame

variable {name file : String} {line column : UInt32}

/-- A name and a file with a parenthesis are printed like the longer name and the shorter file. -/
theorem print_append (name before after : String) (line column : UInt32) :
    print ⟨some name, before ++ " (" ++ after, line, column⟩ =
      print ⟨some (name ++ " (" ++ before), after, line, column⟩ := by
  have hprint (name file : String) : (print ⟨some name, file, line, column⟩).toList =
      (name ++ " (" ++ location ⟨some name, file, line, column⟩ ++ ")").toList := rfl
  refine String.toList_inj.mp ?_
  rw [hprint, hprint]
  simp [toList_location]

/-- A text that can be cut has a last cut. -/
theorem exists_last_opening {text : List Char} (h : HasOpening text) :
    ∃ before after, text = before ++ ' ' :: '(' :: after ∧ after ≠ [] ∧ ¬ HasOpening after := by
  obtain ⟨before, after, hcut⟩ := exists_splitCall?_iff.mpr h
  exact ⟨before, after, splitCall?_eq_some_iff.mp hcut⟩

/-- A printed frame with a name is read back exactly when its file has no parenthesis to be cut
at. -/
theorem read_call_iff (hname : name ≠ "" ∧ '\n' ∉ name.toList)
    (hhead : ∀ c ∈ name.toList.head?, Unicode.isBlank c = false)
    (hfile : file ≠ "" ∧ '\n' ∉ file.toList) :
    read? ("at " ++ print ⟨some name, file, line, column⟩) =
        some ⟨some name, file, line, column⟩ ↔ ¬ HasOpening file.toList := by
  have hcall : IsNamedCall (print ⟨some name, file, line, column⟩).toList
      ⟨some name, file, line, column⟩ := isNamedCall_print hname hfile
  have hcore : core ("at " ++ print ⟨some name, file, line, column⟩).toList =
      (print ⟨some name, file, line, column⟩).toList := by
    have hat := core_indent_at (List.forall_mem_nil _) (hcall.isTrim (by simpa using hhead))
      hcall.ne_nil
    rw [String.toList_append]
    exact hat
  rw [read?_eq_some_iff, hcore]
  constructor
  · rintro (⟨-, hno⟩ | ⟨-, -, hnone, -⟩)
    · exact hno
    · cases hnone
  · exact fun hno => .inl ⟨hcall, hno⟩

/-- A printed frame with a name is read back exactly when no parenthesis follows a space in its
file, other than at its end. Where one does, the last of them begins the file that is read, and what
stands before it is read as the name. -/
theorem read_call_spec (line column : UInt32) (hname : name ≠ "" ∧ '\n' ∉ name.toList)
    (hhead : ∀ c ∈ name.toList.head?, Unicode.isBlank c = false)
    (hfile : file ≠ "" ∧ '\n' ∉ file.toList) :
    (read? ("at " ++ print ⟨some name, file, line, column⟩) =
        some ⟨some name, file, line, column⟩ ↔ ¬ HasOpening file.toList) ∧
    (HasOpening file.toList → ∃ before after : String, file = before ++ " (" ++ after ∧
      after ≠ "" ∧ ¬ HasOpening after.toList ∧
      read? ("at " ++ print ⟨some name, file, line, column⟩) =
        some ⟨some (name ++ " (" ++ before), after, line, column⟩) := by
  refine ⟨read_call_iff hname hhead hfile, fun hopening => ?_⟩
  obtain ⟨before, after, hcut, hne, hno⟩ := exists_last_opening hopening
  have hsplit : file = String.ofList before ++ " (" ++ String.ofList after :=
    String.toList_inj.mp (by simp [hcut])
  have hafter : String.ofList after ≠ "" := by simpa using hne
  have hnone : ¬ HasOpening (String.ofList after).toList := by simpa using hno
  refine ⟨_, _, hsplit, hafter, hnone, ?_⟩
  -- The text is that of the longer name and the shorter file, which cannot be cut.
  rw [hsplit, print_append]
  rw [hsplit] at hfile
  obtain ⟨hline, hline'⟩ : '\n' ∉ before ∧ '\n' ∉ after := by simpa using hfile.2
  have hlonger : name ++ " (" ++ String.ofList before ≠ "" ∧
      '\n' ∉ (name ++ " (" ++ String.ofList before).toList := by
    refine ⟨by simp, ?_⟩
    simp [hname.2, hline]
  have hfirst : ∀ c ∈ (name ++ " (" ++ String.ofList before).toList.head?,
      Unicode.isBlank c = false := by
    obtain ⟨b, rest, hb⟩ :=
      List.exists_cons_of_ne_nil (by simpa using hname.1 : name.toList ≠ [])
    intro c hc
    refine hhead c ?_
    simpa [hb] using hc
  exact (read_call_iff hlonger hfirst ⟨hafter, by simpa using hline'⟩).mpr hnone

/-- A file with parentheses that no space comes before is read back, one in a directory with a
parenthesis behind a space is not. -/
theorem read_call_spec_two_files :
    read? ("at " ++ print ⟨some "f", "/a(b) c/d.js", 1, 2⟩) =
      some ⟨some "f", "/a(b) c/d.js", 1, 2⟩ ∧
    read? ("at " ++ print ⟨some "f", "/a (b)/c.js", 1, 2⟩) ≠
      some ⟨some "f", "/a (b)/c.js", 1, 2⟩ := by
  have hname : "f" ≠ "" ∧ '\n' ∉ "f".toList := by decide
  have hhead : ∀ c ∈ "f".toList.head?, Unicode.isBlank c = false := by
    intro c hc
    cases hc
    rfl
  have hopening : HasOpening "/a (b)/c.js".toList :=
    ⟨"/a".toList, "b)/c.js".toList, by decide +kernel, by decide +kernel⟩
  have hnone : ¬ HasOpening "/a(b) c/d.js".toList := by
    rw [← exists_splitCall?_iff]
    rintro ⟨before, after, hcut⟩
    exact absurd hcut (by rw [show splitCall? "/a(b) c/d.js".toList = none by decide +kernel]; simp)
  constructor
  · exact (read_call_spec 1 2 hname hhead (by decide +kernel)).1.mpr hnone
  · intro h
    exact (read_call_spec 1 2 hname hhead (by decide +kernel)).1.mp h hopening

/-- A name without any parenthesis, and a file whose directory has one behind a space: the front of
the file is read as a part of the name. -/
theorem read_call_program_files :
    let name := "f"
    let file := "C:\\Program Files (x86)\\a.js"
    (name ≠ "" ∧ '\n' ∉ name.toList ∧ (∀ c ∈ name.toList.head?, Unicode.isBlank c = false) ∧
      ¬ " (".toList <:+: name.toList) ∧ (file ≠ "" ∧ '\n' ∉ file.toList) ∧
    read? ("at " ++ print ⟨some name, file, 1, 2⟩) =
      some ⟨some "f (C:\\Program Files", "x86)\\a.js", 1, 2⟩ ∧
    read? ("at " ++ print ⟨some name, file, 1, 2⟩) ≠ some ⟨some name, file, 1, 2⟩ := by
  intro name file
  have hread : read? ("at " ++ print ⟨some name, file, 1, 2⟩) =
      some ⟨some "f (C:\\Program Files", "x86)\\a.js", 1, 2⟩ := by
    decide +kernel
  have hhead : ∀ c ∈ "f".toList.head?, Unicode.isBlank c = false := by
    intro c hc
    cases hc
    rfl
  refine ⟨⟨by decide, by decide, hhead, by decide +kernel⟩, by decide +kernel, hread, ?_⟩
  rw [hread]
  decide +kernel

end Retrace.Frame
