import Retrace.Proofs.Report
import Retrace.Proofs.SourceContextBounds

/-!
# Blocks of reports

Which positions have a block of source lines in a report, and how many lines stand on either side of
the marked one. A block has as many as are asked for and as the source has (`showsAround_rows`).

That a source has no such line is told by a window in which everything is empty. An empty line with
others before it is told apart from this by them, but the first line has none. So a position in the
first line has no block if this line is empty, and every other line of the source has one
(`isBlank_iff`, `render?_blocks`).
-/

namespace Retrace.Report

open SourceContext (IsAround linesBetween)

/-- Rows show a line of a text, marked, between as many lines before it and behind it as are asked
for, or as there are. -/
structure ShowsAround (lines : List String) (line context : Nat) (before : List Row) (marked : Row)
    (after : List Row) : Prop where
  /-- The rows show lines of the text that follow each other. -/
  texts : (before ++ marked :: after).map Row.text =
    linesBetween lines (max 1 (line - context)) (min lines.length (line + context))
  /-- Each of them shows one line. -/
  newline_notMem : ∀ row ∈ before ++ marked :: after, '\n' ∉ row.text.toList
  /-- The marked row shows the line. -/
  line_eq : lines[line - 1]? = some marked.text
  /-- It is marked. -/
  marked_eq : marked.marked = true
  /-- No other row is. -/
  unmarked : ∀ row ∈ before ++ after, row.marked = false
  /-- The rows before it reach as far as asked for, or to the first line. -/
  length_before : before.length = min context (line - 1)
  /-- The rows behind it reach as far as asked for, or to the last line. -/
  length_after : after.length = min context (lines.length - line)

/-- What is shown of a source for a position: the lines around that of the position, if the source
has it, unless it is an empty first line. -/
structure IsShownAround (context : Nat) (position : Position) (content block : String) :
    Prop where
  /-- Something is shown if the source has the line and it is not an empty first line. -/
  ne_empty_iff : block ≠ "" ↔ position.line.toNat ≤ (Text.linesOf content).length ∧
    ¬ (position.line = 1 ∧ (Text.linesOf content).head? = some "")
  /-- What is shown are rows around the line. -/
  exists_rows : block ≠ "" → ∃ before marked after width,
    ShowsAround (Text.linesOf content) position.line.toNat context before marked after ∧
      block = String.join ((before ++ marked :: after).map (Row.print width))

/-- What is shown for a line of a trace and its result has a block where lines of the source around
the position are to be shown. -/
def IsBlockPiece (context : Nat) (line : String) (result : Option Position) (piece : String) :
    Prop :=
  match result with
  | none => piece = s!"{line}\n"
  | some position => ∃ block, piece = s!"{line}\n    -> {position.location}\n{block}" ∧
      (position.sourceContent = none → block = "") ∧
      ∀ content, position.sourceContent = some content → position.line ≠ 0 →
        IsShownAround context position content block

variable {context line : Nat} {window : SourceContext} {lines : List String}
  {position : Position} {content block : String}

/-- The rows of the window around a line show it with the lines around it. -/
theorem showsAround_rows (h : IsAround lines line context window)
    (hlines : ∀ text ∈ lines, '\n' ∉ text.toList) :
    ShowsAround lines line context (rowsFrom (line - window.pre.length) window.pre)
      ⟨true, line, window.line⟩ (rowsFrom (line + 1) window.post) := by
  obtain ⟨hpre, hpreMarks⟩ := rowsFrom_spec (line - window.pre.length) window.pre
  obtain ⟨hpost, hpostMarks⟩ := rowsFrom_spec (line + 1) window.post
  have htexts : (rowsFrom (line - window.pre.length) window.pre ++
      (⟨true, line, window.line⟩ : Row) :: rowsFrom (line + 1) window.post).map Row.text =
      window.pre ++ window.line :: window.post := by
    rw [List.map_append, List.map_cons, hpre, hpost]
  refine ⟨htexts.trans h.eq_linesBetween, fun row hrow => ?_, h.getElem?_eq, rfl,
    fun row hrow => ?_, ?_, ?_⟩
  · obtain ⟨front, back, hsplit, -⟩ := h.split
    have htext : row.text ∈ window.pre ++ window.line :: window.post :=
      htexts ▸ List.mem_map_of_mem hrow
    refine hlines row.text ?_
    rw [hsplit]
    exact List.mem_append_left _ (List.mem_append_right _ htext)
  · exact (List.mem_append.mp hrow).elim (hpreMarks row) (hpostMarks row)
  · rw [rowsFrom, List.length_mapIdx, h.length_pre]
  · rw [rowsFrom, List.length_mapIdx, h.length_post]

/-- A row is printed with a bar. -/
theorem Row.print_ne_empty (width : Nat) (row : Row) : row.print width ≠ "" := by
  intro h
  have hbar : '|' ∈ (row.print width).toList := by simp [Row.print, toString]
  rw [h] at hbar
  exact absurd hbar List.not_mem_nil

/-- What is printed of rows is not empty. -/
theorem join_print_ne_empty {rows : List Row} (hrows : rows ≠ []) (width : Nat) :
    String.join (rows.map (Row.print width)) ≠ "" := by
  intro h
  have htoList := congrArg String.toList h
  rw [String.toList_join, String.toList_empty, List.flatMap_eq_nil_iff] at htoList
  obtain ⟨row, hrow⟩ := List.exists_mem_of_ne_nil rows hrows
  have hprint := htoList _ (List.mem_map_of_mem hrow)
  exact row.print_ne_empty width (String.toList_eq_nil_iff.mp hprint)

/-- Of the windows around a line, only that around an empty first line is taken for the window of no
line. -/
theorem isBlank_iff (h : IsAround lines line context window) (hcontext : context ≠ 0) :
    isBlank window = true ↔ line = 1 ∧ lines.head? = some "" := by
  have hpre := h.length_pre
  have hline := h.getElem?_eq
  obtain ⟨front, back, -, hfront⟩ := h.split
  rw [isBlank, Bool.and_eq_true, String.isEmpty_iff, List.isEmpty_iff]
  constructor
  · rintro ⟨hempty, hnil⟩
    have hfirst : line = 1 := by
      rw [hnil, List.length_nil] at hpre
      omega
    rw [hfirst, Nat.sub_self, ← List.head?_eq_getElem?, hempty] at hline
    exact ⟨hfirst, hline⟩
  · rintro ⟨rfl, hempty⟩
    rw [Nat.sub_self, ← List.head?_eq_getElem?, hempty] at hline
    refine ⟨(Option.some.inj hline).symm, List.length_eq_zero_iff.mp ?_⟩
    rw [hpre, Nat.sub_self, Nat.min_zero]

/-- What is shown of a known source around a line that counts from one. -/
theorem isShownAround_of_block? (hcontext : context ≠ 0)
    (hcontent : position.sourceContent = some content) (hline : position.line ≠ 0)
    (h : block? context position = some block) :
    IsShownAround context position content block := by
  have hfits : Fits context position := by
    by_contra hnot
    cases (block?_eq_none_iff.mpr hnot).symm.trans h
  have hpos : max position.line.toNat 1 = position.line.toNat := by
    have : position.line.toNat ≠ 0 := fun hzero => hline (UInt32.toNat_inj.mp hzero)
    omega
  have hone : position.line.toNat = 1 ↔ position.line = 1 := by
    rw [← UInt32.toNat_inj, UInt32.toNat_one]
  rw [block?_of_some hcontent hcontext] at h
  rcases Nat.lt_or_ge (Text.linesOf content).length position.line.toNat with hbehind | hwithin
  · -- The window of no line has no block.
    rw [SourceContext.around?_of_lt (by omega)] at h
    cases h
    exact ⟨iff_of_false (fun hne => hne rfl) fun hshown =>
      absurd hshown.1 (Nat.not_le.mpr hbehind), fun hne => absurd rfl hne⟩
  · have hmax : max position.line.toNat 1 ≤ (Text.linesOf content).length := hpos.symm ▸ hwithin
    obtain ⟨window, haround, hwindow⟩ :=
      SourceContext.around?_of_le hmax (hfits content hcontent hmax)
    rw [hpos] at hwindow
    have hblank := (isBlank_iff hwindow hcontext).trans (and_congr_left' hone)
    rw [haround, Option.map_some, Option.some.injEq] at h
    split at h
    next hempty =>
      subst h
      exact ⟨iff_of_false (fun hne => hne rfl) fun hshown => hshown.2 (hblank.mp hempty),
        fun hne => absurd rfl hne⟩
    next hshown =>
      subst h
      have hrows : rows position.line.toNat window ≠ [] := by simp [rows]
      refine ⟨iff_of_true (join_print_ne_empty hrows _) ⟨hwithin, fun hempty =>
        hshown (hblank.mpr hempty)⟩, fun _ => ⟨_, _, _, _, ?_, rfl⟩⟩
      exact showsAround_rows hwindow fun _ => Text.newline_notMem_of_mem_linesOf

/-- What is shown for a line of a trace has a block where it is to have one. -/
theorem isBlockPiece_of_piece? (hcontext : context ≠ 0) {line piece : String}
    {result : Option Position} (h : piece? context line result = some piece) :
    IsBlockPiece context line result piece := by
  cases result with
  | none =>
    cases h
    rfl
  | some position =>
    obtain ⟨block, hblock, rfl⟩ := Option.map_eq_some_iff.mp h
    refine ⟨block, rfl, fun hnone => ?_, fun content hcontent hline =>
      isShownAround_of_block? hcontext hcontent hline hblock⟩
    rw [block?_of_none (.inl hnone)] at hblock
    exact (Option.some.inj hblock).symm

/-- The blocks of a report that is to show lines of the sources: if all windows fit, the report has
a text, and in it each position whose line counts from one has a block if its source has the line,
unless this is an empty first line. The block shows as many lines on either side of the marked one
as are asked for and as there are. -/
theorem render?_blocks {lines : List String} {results : List (Option Position)}
    (hcontext : context ≠ 0)
    (hfits : ∀ line position, (line, some position) ∈ lines.zip results → Fits context position) :
    ∃ pieces, render? context lines results = some (String.join pieces) ∧
      List.Forall₂ (fun entry piece => IsBlockPiece context entry.1 entry.2 piece)
        (lines.zip results) pieces := by
  unfold render?
  cases hpieces : (lines.zip results).mapM fun (line, result) => piece? context line result with
  | none =>
    obtain ⟨⟨line, result⟩, hmem, hnone⟩ := Text.mapM_eq_none_iff.mp hpieces
    obtain ⟨position, rfl, hnot⟩ := piece?_eq_none_iff.mp hnone
    exact absurd (hfits line position hmem) hnot
  | some pieces =>
    exact ⟨pieces, rfl, (Text.mapM_eq_some_iff_forall₂.mp hpieces).imp fun _ _ =>
      isBlockPiece_of_piece? hcontext⟩

/-- An empty second line has a block, and a line behind the last one has none. -/
theorem render?_blocks_empty_line :
    let second : Position := ⟨"a.ts", 2, 0, some "one\n\nthree"⟩
    let fourth : Position := ⟨"a.ts", 4, 0, some "one\n\nthree"⟩
    let report := "x\n    -> a.ts:2:0\n       1 | one\n     > 2 | \n       3 | three\n" ++
      "y\n    -> a.ts:4:0\n"
    (∀ line position, (line, some position) ∈ ["x", "y"].zip [some second, some fourth] →
      Fits 1 position) ∧
    render? 1 ["x", "y"] [some second, some fourth] = some report ∧
    ∃ pieces, report = String.join pieces ∧
      List.Forall₂ (fun entry piece => IsBlockPiece 1 entry.1 entry.2 piece)
        (["x", "y"].zip [some second, some fourth]) pieces := by
  intro second fourth report
  have hfits : ∀ line position,
      (line, some position) ∈ ["x", "y"].zip [some second, some fourth] → Fits 1 position := by
    intro line position hmem content _ _
    have hline : position.line.toNat < 2 ^ 32 := position.line.toNat_lt
    show _ < 2 ^ 64
    omega
  have hreport : render? 1 ["x", "y"] [some second, some fourth] = some report := by
    decide +kernel
  obtain ⟨pieces, hpieces, hall⟩ := render?_blocks (by decide) hfits
  exact ⟨hfits, hreport, pieces, Option.some.inj (hreport.symm.trans hpieces), hall⟩

/-- An empty first line has no block, though the source has it. -/
theorem render?_empty_first_line :
    let position : Position := ⟨"a.ts", 1, 0, some "\ntwo"⟩
    position.line.toNat ≤ (Text.linesOf "\ntwo").length ∧
      render? 1 ["x"] [some position] = some "x\n    -> a.ts:1:0\n" ∧
      ¬ ∃ rows width, rows ≠ [] ∧ render? 1 ["x"] [some position] =
        some ("x\n    -> a.ts:1:0\n" ++ String.join (rows.map (Row.print width))) := by
  intro position
  have hreport : render? 1 ["x"] [some position] = some "x\n    -> a.ts:1:0\n" := by
    decide +kernel
  refine ⟨by decide +kernel, hreport, ?_⟩
  rintro ⟨rows, width, hrows, hblock⟩
  have hsame := congrArg String.toList (Option.some.inj (hreport.symm.trans hblock))
  rw [String.toList_append, List.self_eq_append_right] at hsame
  exact join_print_ne_empty hrows width (String.toList_eq_nil_iff.mp hsame)

end Retrace.Report
