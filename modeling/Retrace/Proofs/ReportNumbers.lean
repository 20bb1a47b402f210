import Retrace.Proofs.Report

/-!
# Numbers in reports

The rows of a block are the lines of a window, counted from the number of its first line
(`rows_eq_mapIdx`). So the numbers follow each other, the marked row has the number of the position,
and as the last number is the greatest, all of them fit into the width that it takes
(`isNumbered_rows`).

Each row shows the line of the source that has its number, unless the line of the position is zero.
Then the window is that of the first line, but its rows are counted from zero, so that all numbers
are too low by one (`render?_line_zero`).
-/

namespace Retrace.Report

open SourceContext (IsAround)

/-- Each row shows the line of a text that has its number, counted from one. -/
def ShowsLines (lines : List String) (rows : List Row) : Prop :=
  ∀ row ∈ rows, 0 < row.number ∧ lines[row.number - 1]? = some row.text

/-- Rows show lines of a text around a line, with numbers that take `width` columns. -/
structure IsNumbered (lines : List String) (line width : Nat) (rows : List Row) : Prop where
  /-- The numbers follow each other. -/
  consecutive : rows.IsChain fun row next => next.number = row.number + 1
  /-- A row is marked. -/
  exists_marked : ∃ row ∈ rows, row.marked = true
  /-- It is the one that has the number of the line. -/
  marked_iff : ∀ row ∈ rows, row.marked = true ↔ row.number = line
  /-- All numbers take the same width. -/
  width_eq : ∀ row ∈ rows, ((digits row.number).leftpad width ' ').length = width
  /-- Rows around a line that is counted from one show the lines that have their numbers. -/
  shows : line ≠ 0 → ShowsLines lines rows
  /-- Rows around line zero show the lines that have the next numbers. -/
  shows_next : line = 0 → ∀ row ∈ rows, lines[row.number]? = some row.text

/-- A block around a position is printed from numbered rows of its source. -/
def IsNumberedBlock (position : Position) (block : String) : Prop :=
  ∃ content width rows, position.sourceContent = some content ∧
    block = String.join (rows.map (Row.print width)) ∧
    IsNumbered (Text.linesOf content) position.line.toNat width rows

/-- What is shown for a line of a trace and its result has a numbered block or none. -/
def IsNumberedPiece (line : String) (result : Option Position) (piece : String) : Prop :=
  match result with
  | none => piece = s!"{line}\n"
  | some position => ∃ block, piece = s!"{line}\n    -> {position.location}\n{block}" ∧
      (block = "" ∨ IsNumberedBlock position block)

variable {context line number size : Nat} {window : SourceContext} {lines : List String}
  {position : Position} {block : String}

/-- Greater numbers have no fewer digits. -/
theorem length_digits_mono (h : number ≤ size) :
    (digits number).length ≤ (digits size).length := by
  have hpos : 0 < (digits size).length := List.length_pos_of_ne_nil Nat.toDigits_ne_nil
  have hsize : size < 10 ^ (digits size).length :=
    (Nat.length_toDigits_le_iff (by decide) hpos).mp (Nat.le_refl _)
  exact (Nat.length_toDigits_le_iff (by decide) hpos).mpr (Nat.lt_of_le_of_lt h hsize)

/-- The rows of a window are its lines, counted from the first. -/
theorem rows_eq_mapIdx (h : window.pre.length ≤ line) :
    rows line window = (window.pre ++ window.line :: window.post).mapIdx fun i text =>
      ⟨decide (i = window.pre.length), line - window.pre.length + i, text⟩ := by
  have hbefore : rowsFrom (line - window.pre.length) window.pre =
      window.pre.mapIdx fun i text =>
        ⟨decide (i = window.pre.length), line - window.pre.length + i, text⟩ := by
    refine List.ext_getElem (by simp [rowsFrom]) fun i _ hi => ?_
    rw [List.length_mapIdx] at hi
    simp [rowsFrom, Nat.ne_of_lt hi]
  have hafter : rowsFrom (line + 1) window.post = window.post.mapIdx fun i text =>
      ⟨decide (i + 1 + window.pre.length = window.pre.length),
        line - window.pre.length + (i + 1 + window.pre.length), text⟩ := by
    refine List.ext_getElem (by simp [rowsFrom]) fun i _ _ => ?_
    have hnumber : line + 1 + i = line - window.pre.length + (i + 1 + window.pre.length) := by
      omega
    simp [rowsFrom, hnumber]
  have hline : line - window.pre.length + window.pre.length = line := Nat.sub_add_cancel h
  rw [rows, List.mapIdx_append, List.mapIdx_cons, hbefore, hafter]
  simp [hline]

/-- A row of the window around a line is one of its lines, counted from the first. -/
theorem exists_of_mem_rows (h : IsAround lines (max line 1) size window) {row : Row}
    (hrow : row ∈ rows line window) : ∃ first i, first + window.pre.length + 1 = max line 1 ∧
      i < window.pre.length + 1 + window.post.length ∧ row.marked = decide (i = window.pre.length) ∧
      row.number = line - window.pre.length + i ∧ lines[first + i]? = some row.text := by
  obtain ⟨front, back, hsplit, hfront⟩ := h.split
  rw [rows_eq_mapIdx (by omega)] at hrow
  obtain ⟨i, hi, rfl⟩ := List.mem_mapIdx.mp hrow
  refine ⟨front.length, i, hfront, ?_, rfl, rfl, ?_⟩
  · simpa [Nat.add_assoc, Nat.add_comm 1] using hi
  · rw [hsplit, List.append_assoc, List.getElem?_append_right (Nat.le_add_right _ _),
      Nat.add_sub_cancel_left, List.getElem?_append_left hi, List.getElem?_eq_getElem hi]

/-- The rows of the window around a line are numbered. -/
theorem isNumbered_rows (h : IsAround lines (max line 1) size window) :
    IsNumbered lines line (digits (line + window.post.length)).length (rows line window) where
  consecutive := by
    obtain ⟨front, back, -, hfront⟩ := h.split
    rw [List.isChain_iff_getElem, rows_eq_mapIdx (by omega)]
    intro i hi
    rw [List.getElem_mapIdx, List.getElem_mapIdx, Nat.add_assoc]
  exists_marked := ⟨⟨true, line, window.line⟩, by simp [rows], rfl⟩
  marked_iff row hrow := by
    obtain ⟨first, i, hfirst, -, hmarked, hnumber, -⟩ := exists_of_mem_rows h hrow
    rw [hmarked, hnumber, decide_eq_true_iff]
    omega
  width_eq row hrow := by
    obtain ⟨first, i, hfirst, hi, -, hnumber, -⟩ := exists_of_mem_rows h hrow
    -- The last number is the greatest.
    rw [List.length_leftpad]
    exact Nat.max_eq_left (length_digits_mono (by omega))
  shows hline row hrow := by
    obtain ⟨first, i, hfirst, -, -, hnumber, htext⟩ := exists_of_mem_rows h hrow
    have hindex : row.number - 1 = first + i := by omega
    exact ⟨by omega, hindex ▸ htext⟩
  shows_next hline row hrow := by
    obtain ⟨first, i, hfirst, -, -, hnumber, htext⟩ := exists_of_mem_rows h hrow
    have hindex : row.number = first + i := by omega
    exact hindex ▸ htext

/-- What is shown around a position is nothing or a numbered block. -/
theorem eq_empty_or_isNumberedBlock (h : block? context position = some block) :
    block = "" ∨ IsNumberedBlock position block := by
  refine (eq_empty_or_printWindow h).imp_right ?_
  rintro ⟨content, window, hcontent, haround, rfl⟩
  exact ⟨content, _, _, hcontent, rfl, isNumbered_rows haround⟩

/-- The numbers in a report: every block of it has consecutive numbers in a column of one width, and
the number of the position is at the marked line. They are the numbers that the lines have in their
source, unless the line of the position is zero. -/
theorem render?_numbers {context : Nat} {lines : List String} {results : List (Option Position)}
    {report : String} (h : render? context lines results = some report) :
    ∃ pieces, report = String.join pieces ∧ List.Forall₂
      (fun entry piece => IsNumberedPiece entry.1 entry.2 piece) (lines.zip results) pieces := by
  obtain ⟨pieces, hpieces, rfl⟩ := Option.map_eq_some_iff.mp h
  refine ⟨pieces, rfl, (Text.mapM_eq_some_iff_forall₂.mp hpieces).imp ?_⟩
  rintro ⟨line, result⟩ piece hpiece
  cases result with
  | none =>
    cases hpiece
    rfl
  | some position =>
    obtain ⟨block, hblock, rfl⟩ := Option.map_eq_some_iff.mp hpiece
    exact ⟨block, rfl, eq_empty_or_isNumberedBlock hblock⟩

/-- The ninth of eleven lines and its neighbours, whose numbers have one digit or two. -/
theorem render?_numbers_nine :
    let position : Position := ⟨"a.ts", 9, 4, some "a\nb\nc\nd\ne\nf\ng\nh\ni\nj\nk"⟩
    let report := "x\n    -> a.ts:9:4\n        8 | h\n     >  9 | i\n       10 | j\ny\n"
    render? 1 ["x", "y"] [some position, none] = some report ∧
      ∃ pieces, report = String.join pieces ∧ List.Forall₂
        (fun entry piece => IsNumberedPiece entry.1 entry.2 piece)
        (["x", "y"].zip [some position, none]) pieces := by
  intro position report
  have hreport : render? 1 ["x", "y"] [some position, none] = some report := by decide +kernel
  exact ⟨hreport, render?_numbers hreport⟩

/-- A frame at line zero of a file that is its own source is shown at the first line, but the first
two lines are given the numbers zero and one. -/
theorem render?_line_zero :
    let service : Service := ⟨.none, 8, .refused⟩
    let answer := memoryArtifact [("a.js", "one\ntwo")]
    let results := [some ⟨"a.js", 0, 0, some "one\ntwo"⟩]
    let rows : List Row := [⟨true, 0, "one"⟩, ⟨false, 1, "two"⟩]
    let block := "     > 0 | one\n       1 | two\n"
    (service.trace "at f (a.js:0:0)").run answer = some results ∧
      render? 1 ["at f (a.js:0:0)"] results =
        some ("at f (a.js:0:0)\n    -> a.js:0:0\n" ++ block) ∧
      block = String.join (rows.map (Row.print 1)) ∧
      ¬ ShowsLines (Text.linesOf "one\ntwo") rows := by
  refine ⟨by decide +kernel, by decide +kernel, by decide +kernel, fun h => ?_⟩
  exact absurd (h _ List.mem_cons_self).1 (by decide)

end Retrace.Report
