import Retrace.SourceContext

/-!
# Lines around a position

The window around a line is the piece of the text that reaches as far as asked for on either side,
or to the end of the text (`IsAround`). A line that the text has has this window unless the end of
the window does not fit into 64 bits, in which case there is no answer; a line beyond the end has
the empty window.
-/

namespace Retrace.SourceContext

variable {source : String} {line size : Nat}

/-- Of these lines, the window has the one with this number and its neighbours: as many as asked
for, or as many as there are. -/
structure IsAround (lines : List String) (line size : Nat) (window : SourceContext) : Prop where
  /-- The window is a piece of the text, in which its line has the number. -/
  split : ∃ front back, lines = front ++ (window.pre ++ window.line :: window.post) ++ back ∧
    front.length + window.pre.length + 1 = line
  /-- The lines before reach as far as asked for, or to the first line. -/
  length_pre : window.pre.length = min size (line - 1)
  /-- The lines after reach as far as asked for, or to the last line. -/
  length_post : window.post.length = min size (lines.length - line)

/-- A line is cut out of a text together with its neighbours. -/
theorem isAround_cut {lines : List String} {index : Nat} (h : index < lines.length) (size : Nat) :
    IsAround lines (index + 1) size {
      pre := (lines.take index).drop (index - size)
      line := lines[index]
      post := (lines.drop (index + 1)).take size } where
  split := by
    refine ⟨(lines.take index).take (index - size), (lines.drop (index + 1)).drop size, ?_, ?_⟩
    · calc lines = lines.take index ++ lines.drop index := (List.take_append_drop index lines).symm
        _ = lines.take index ++ lines[index] :: lines.drop (index + 1) := by
          rw [List.drop_eq_getElem_cons h]
        _ = ((lines.take index).take (index - size) ++ (lines.take index).drop (index - size)) ++
            lines[index] :: ((lines.drop (index + 1)).take size ++
              (lines.drop (index + 1)).drop size) := by
          rw [List.take_append_drop, List.take_append_drop]
        _ = _ := by simp only [List.append_assoc, List.cons_append]
    · simp only [List.length_take, List.length_drop]
      omega
  length_pre := by
    simp only [List.length_take, List.length_drop]
    omega
  length_post := by
    simp only [List.length_take, List.length_drop]

/-- A line beyond the end has the empty window. -/
theorem around?_of_lt (h : (Text.linesOf source).length < max line 1) :
    around? source line size = some empty := by
  have hindex : (Text.linesOf source)[line - 1]? = none := by
    rw [List.getElem?_eq_none_iff]
    omega
  unfold around?
  dsimp only
  rw [hindex]

/-- A line of the text is cut out together with its neighbours if the end of the window fits. -/
theorem around?_eq_some {current : String}
    (hcurrent : (Text.linesOf source)[line - 1]? = some current)
    (hsize : line - 1 + 1 + size < positionBound) :
    around? source line size = some {
      pre := ((Text.linesOf source).take (line - 1)).drop (line - 1 - size)
      line := current
      post := ((Text.linesOf source).drop (line - 1 + 1)).take size } := by
  unfold around?
  dsimp only
  rw [hcurrent]
  exact if_pos hsize

/-- A line of the text has a window if its end fits. -/
theorem around?_of_le (h : max line 1 ≤ (Text.linesOf source).length)
    (hsize : max line 1 + size < positionBound) :
    ∃ window, around? source line size = some window ∧
      IsAround (Text.linesOf source) (max line 1) size window := by
  have hindex : line - 1 < (Text.linesOf source).length := by omega
  have hline : max line 1 = line - 1 + 1 := by omega
  rw [hline] at hsize ⊢
  exact ⟨_, around?_eq_some (List.getElem?_eq_getElem hindex) hsize, isAround_cut hindex size⟩

/-- There is no window where its end does not fit. -/
theorem around?_eq_none_iff : around? source line size = none ↔
    max line 1 ≤ (Text.linesOf source).length ∧ positionBound ≤ max line 1 + size := by
  constructor
  · intro h
    have hle : max line 1 ≤ (Text.linesOf source).length :=
      Nat.le_of_not_lt fun hlt => by cases h.symm.trans (around?_of_lt hlt)
    refine ⟨hle, Nat.le_of_not_lt fun hsize => ?_⟩
    obtain ⟨window, hwindow, -⟩ := around?_of_le hle hsize
    cases h.symm.trans hwindow
  · intro ⟨hle, hsize⟩
    have hindex : line - 1 < (Text.linesOf source).length := by omega
    unfold around?
    dsimp only
    rw [List.getElem?_eq_getElem hindex]
    dsimp only
    rw [if_neg (by omega)]

/-- A window is that of no line, or the one around the line. -/
theorem eq_empty_or_isAround {window : SourceContext}
    (h : around? source line size = some window) :
    window = empty ∨ IsAround (Text.linesOf source) (max line 1) size window := by
  rcases Nat.lt_or_ge (Text.linesOf source).length (max line 1) with hlt | hle
  · rw [around?_of_lt hlt] at h
    cases h
    exact .inl rfl
  · rcases Nat.lt_or_ge (max line 1 + size) positionBound with hsize | hsize
    · obtain ⟨_, haround, hspec⟩ := around?_of_le hle hsize
      cases haround.symm.trans h
      exact .inr hspec
    · cases (around?_eq_none_iff.mpr ⟨hle, hsize⟩).symm.trans h

end Retrace.SourceContext
