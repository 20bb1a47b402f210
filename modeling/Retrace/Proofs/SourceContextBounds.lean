import Mathlib.Algebra.GroupWithZero.Nat
import Retrace.Proofs.SourceContext
import Retrace.Proofs.Text

/-!
# The bounds of windows

A window is worked out from pieces of the text whose bounds are sums and differences of numbers of
64 bits. Where the end of the window fits, the pieces lie side by side, so that together they are
the lines from one number to another (`around?_spec`).

Each of the steps that are taken apart in `cutAround` can fail, and only one does, the sum that
gives the end (`cutAround_spec`): if sums that do not fit are refused, it is refused, and if they
start over at zero, the end that it gives is before the line, where no piece can be cut.
-/

namespace Retrace.SourceContext

variable {source : String} {lines : List String} {line size first last : Nat}
  {window : SourceContext}

/-! ### The lines of a window -/

/-- The lines of a text from one number to another. Lines count from one. -/
def linesBetween (lines : List String) (first last : Nat) : List String :=
  lines.extract (first - 1) last

/-- A piece of a text is told by what stands before it and by its length. -/
theorem linesBetween_eq {front piece back : List String} (hlines : lines = front ++ piece ++ back)
    (hfirst : first = front.length + 1) (hlast : last = front.length + piece.length) :
    linesBetween lines first last = piece := by
  have hlength : last - front.length = piece.length := by omega
  rw [linesBetween, List.extract_eq_take_drop, hfirst, Nat.add_sub_cancel, hlines,
    List.append_assoc, List.drop_left, hlength, List.take_left]

/-- The window around a line is made of the lines as far from it as asked for. -/
theorem IsAround.eq_linesBetween (h : IsAround lines line size window) :
    window.pre ++ window.line :: window.post =
      linesBetween lines (max 1 (line - size)) (min lines.length (line + size)) := by
  obtain ⟨front, back, hsplit, hfront⟩ := h.split
  have hpre := h.length_pre
  have hpost := h.length_post
  -- What is left is about lengths alone.
  have hlength : lines.length =
      front.length + (window.pre.length + (window.post.length + 1)) + back.length := by
    rw [hsplit]
    simp only [List.length_append, List.length_cons]
  refine (linesBetween_eq hsplit ?_ ?_).symm
  · omega
  · rw [List.length_append, List.length_cons]
    omega

/-- The line of a window is the one with the number. -/
theorem IsAround.getElem?_eq (h : IsAround lines line size window) :
    lines[line - 1]? = some window.line := by
  obtain ⟨front, back, hsplit, hfront⟩ := h.split
  have hindex : line - 1 = (front ++ window.pre).length := by
    rw [List.length_append]
    omega
  have hlines : lines = (front ++ window.pre) ++ window.line :: (window.post ++ back) := by
    rw [hsplit]
    simp only [List.append_assoc, List.cons_append]
  rw [hindex, hlines, List.getElem?_append_right (Nat.le_refl _), Nat.sub_self]
  rfl

/-- The window around a line whose end fits into 64 bits: behind the last line there is none, and
else it is made of the lines that are as far from the line as asked for, where line zero is taken
for the first. -/
theorem around?_spec (hlines : Text.AreLines source.toList (lines.map String.toList))
    (hsize : max line 1 + size < 2 ^ 64) :
    ∃ window, around? source line size = some window ∧
      if lines.length < line ∨ lines.length = 0 then
        window.pre = [] ∧ window.line = "" ∧ window.post = []
      else
        window.pre ++ window.line :: window.post = linesBetween lines
            (max 1 (max line 1 - size)) (min lines.length (max line 1 + size)) ∧
          window.pre.length = min size (max line 1 - 1) ∧
          window.post.length = min size (lines.length - max line 1) ∧
          lines[max line 1 - 1]? = some window.line := by
  obtain rfl : lines = Text.linesOf source := Text.areLines_iff_eq_linesOf.mp hlines
  split
  next hbehind =>
    exact ⟨empty, around?_of_lt (by omega), rfl, rfl, rfl⟩
  next hnot =>
    have hwithin : max line 1 ≤ (Text.linesOf source).length := by omega
    obtain ⟨window, haround, hwindow⟩ := around?_of_le hwithin hsize
    exact ⟨window, haround, hwindow.eq_linesBetween, hwindow.length_pre, hwindow.length_post,
      hwindow.getElem?_eq⟩

/-- The second of three lines that end in different ways, and a line behind them. -/
theorem around?_spec_three_lines :
    Text.AreLines "one\r\ntwo\nthree".toList (["one", "two", "three"].map String.toList) ∧
      max 2 1 + 5 < 2 ^ 64 ∧ max 4 1 + 5 < 2 ^ 64 ∧
      (∃ window, around? "one\r\ntwo\nthree" 2 5 = some window ∧
        window.pre ++ window.line :: window.post =
          linesBetween ["one", "two", "three"] (max 1 (2 - 5)) (min 3 (2 + 5)) ∧
        window.pre.length = min 5 (2 - 1) ∧ window.post.length = min 5 (3 - 2) ∧
        window.line = "two") ∧
      around? "one\r\ntwo\nthree" 4 5 = some ⟨[], "", []⟩ := by
  have hlines : Text.AreLines "one\r\ntwo\nthree".toList
      (["one", "two", "three"].map String.toList) :=
    Text.areLines_iff_eq_linesOf.mpr (by decide +kernel)
  have hsecond : max 2 1 + 5 < 2 ^ 64 := by decide
  have hfourth : max 4 1 + 5 < 2 ^ 64 := by decide
  refine ⟨hlines, hsecond, hfourth, ?_, ?_⟩
  · obtain ⟨window, haround, hwindow⟩ := around?_spec hlines hsecond
    rw [if_neg (by decide)] at hwindow
    obtain ⟨hblock, hpre, hpost, hline⟩ := hwindow
    exact ⟨window, haround, hblock, hpre, hpost, (Option.some.inj hline).symm⟩
  · obtain ⟨window, haround, hwindow⟩ := around?_spec hlines hfourth
    rw [if_pos (by decide)] at hwindow
    obtain ⟨pre, line, post⟩ := window
    obtain ⟨rfl, rfl, rfl⟩ := hwindow
    exact haround

/-! ### The steps to a window -/

/-- The fault that a sum that does not fit leads to. -/
def CutFault.ofOverflow : Overflow → CutFault
  | .refused => .sum
  | .wrapped => .range

variable {overflow : Overflow} {index start stop : Nat}

/-- A sum that fits is exact. -/
theorem sum_of_lt {a b : Nat} (h : a + b < positionBound) : sum overflow a b = .ok (a + b) := by
  unfold sum
  rw [Overflow.sum?_of_lt h]

/-- A sum that does not fit fails if it is refused. -/
theorem sum_refused {a b : Nat} (h : positionBound ≤ a + b) :
    sum .refused a b = .error .sum := by
  unfold sum
  rw [Overflow.sum?_eq_none_iff.mpr ⟨rfl, h⟩]

/-- A range in a text can be cut. -/
theorem cut_of_le (hstart : start ≤ stop) (hstop : stop ≤ lines.length) :
    cut lines start stop = .ok (lines.extract start stop) :=
  if_pos ⟨hstart, hstop⟩

/-- The lines before a line end where it begins, however many are asked for. -/
theorem cut_before (h : index < lines.length) (size : Nat) :
    cut lines (index - size) index = .ok ((lines.take index).drop (index - size)) := by
  rw [cut_of_le (Nat.sub_le _ _) (Nat.le_of_lt h), List.drop_take]

/-- The lines behind a line end where the window or the text does. -/
theorem cut_after (h : index < lines.length) (size : Nat) :
    cut lines (index + 1) (min (index + 1 + size) lines.length) =
      .ok ((lines.drop (index + 1)).take size) := by
  rw [cut_of_le (by omega) (Nat.min_le_right _ _), List.extract_eq_take_drop]
  congr 1
  rw [List.take_eq_take_iff, List.length_drop]
  omega

/-- Up to the end of the window no step fails. -/
theorem cutAround_eq_bind {current : String} (hcurrent : lines[line - 1]? = some current)
    (hbound : line < positionBound) :
    cutAround overflow lines line size = (do
      let stop ← sum overflow (line - 1 + 1) size
      let post ← cut lines (line - 1 + 1) (min stop lines.length)
      return ⟨(lines.take (line - 1)).drop (line - 1 - size), current, post⟩) := by
  obtain ⟨hindex, -⟩ := List.getElem?_eq_some_iff.mp hcurrent
  -- The next line has a number of 64 bits, as it is at most the line that is asked for, or one.
  have hnext : line - 1 + 1 < positionBound := by
    have : 1 < positionBound := by decide
    omega
  unfold cutAround
  dsimp only
  rw [if_neg (Nat.not_le.mpr hindex), lineAt, hcurrent, cut_before hindex,
    sum_of_lt hnext]
  rfl

/-- Behind the last line there is nothing to cut. -/
theorem cutAround_of_lt (h : lines.length < max line 1) :
    cutAround overflow lines line size = .ok empty := by
  unfold cutAround
  dsimp only
  rw [if_pos (by omega)]

/-- If the end of the window fits, all steps succeed. -/
theorem cutAround_of_fits (overflow : Overflow)
    (hline : max line 1 ≤ (Text.linesOf source).length)
    (hsize : max line 1 + size < positionBound) :
    ∃ window, around? source line size = some window ∧
      cutAround overflow (Text.linesOf source) line size = .ok window := by
  have hindex : line - 1 < (Text.linesOf source).length := by omega
  have hcurrent := List.getElem?_eq_getElem hindex
  have hend : line - 1 + 1 + size < positionBound := by omega
  refine ⟨_, around?_eq_some hcurrent hend, ?_⟩
  rw [cutAround_eq_bind hcurrent (by omega), sum_of_lt hend]
  exact congrArg (Except.map _) (cut_after hindex size)

/-- If the end of the window does not fit, the step that needs it fails. -/
theorem cutAround_of_overflow (overflow : Overflow) (hline : max line 1 ≤ lines.length)
    (hbound : line < positionBound) (hsize : size < positionBound)
    (hend : positionBound ≤ max line 1 + size) :
    cutAround overflow lines line size = .error (.ofOverflow overflow) := by
  have hindex : line - 1 < lines.length := by omega
  rw [cutAround_eq_bind (List.getElem?_eq_getElem hindex) hbound]
  cases overflow with
  | refused =>
    rw [sum_refused (by omega)]
    rfl
  | wrapped =>
    -- The end starts over at zero and does not come up to the line again.
    obtain ⟨stop, hstop⟩ : ∃ stop, stop = (line - 1 + 1 + size) % positionBound := ⟨_, rfl⟩
    have hsum : sum .wrapped (line - 1 + 1) size = .ok stop := congrArg Except.ok hstop.symm
    have hback : stop < line - 1 + 1 := by
      rw [hstop, Nat.mod_eq_sub_mod (by omega), Nat.mod_eq_of_lt (by omega)]
      omega
    have hcut : cut lines (line - 1 + 1) (min stop lines.length) = .error .range :=
      if_neg (by omega)
    rw [hsum]
    exact congrArg (Except.map _) hcut

/-- The steps to a window around a line of 64 bits, with as many lines asked for as 64 bits can
tell. Taken one by one they give the window, whatever becomes of sums that do not fit. They all
succeed exactly where the text has no such line or the end of the window fits; where it does not,
the sum that gives the end is refused, or it starts over and the range up to it is none. -/
theorem cutAround_spec (overflow : Overflow) (source : String) (line size : UInt64) :
    let lines := Text.linesOf source
    let result := cutAround overflow lines line.toNat size.toNat
    result.toOption = around? source line.toNat size.toNat ∧
      ((∃ window, result = .ok window) ↔
        lines.length < max line.toNat 1 ∨ max line.toNat 1 + size.toNat < 2 ^ 64) ∧
      ∀ fault, result = .error fault ↔ (max line.toNat 1 ≤ lines.length ∧
        2 ^ 64 ≤ max line.toNat 1 + size.toNat) ∧ fault = .ofOverflow overflow := by
  intro lines result
  rcases Nat.lt_or_ge lines.length (max line.toNat 1) with hbehind | hline
  · have hresult : result = .ok empty := cutAround_of_lt hbehind
    rw [hresult, around?_of_lt hbehind]
    exact ⟨rfl, iff_of_true ⟨_, rfl⟩ (.inl hbehind), fun _ =>
      iff_of_false nofun fun h => absurd h.1.1 (Nat.not_le.mpr hbehind)⟩
  · rcases Nat.lt_or_ge (max line.toNat 1 + size.toNat) positionBound with hfits | hend
    · obtain ⟨window, haround, hresult⟩ := cutAround_of_fits overflow hline hfits
      have hresult : result = .ok window := hresult
      rw [hresult, haround]
      exact ⟨rfl, iff_of_true ⟨_, rfl⟩ (.inr hfits), fun _ =>
        iff_of_false nofun fun h => absurd h.1.2 (Nat.not_le.mpr hfits)⟩
    · have hresult : result = .error (.ofOverflow overflow) :=
        cutAround_of_overflow overflow hline line.toNat_lt size.toNat_lt hend
      rw [hresult, around?_eq_none_iff.mpr ⟨hline, hend⟩]
      refine ⟨rfl, iff_of_false nofun fun h => ?_, fun fault => ?_⟩
      · rcases h with hbehind | hfits
        · exact absurd hbehind (Nat.not_lt.mpr hline)
        · exact absurd hfits (Nat.not_lt.mpr hend)
      · rw [Except.error.injEq]
        exact ⟨fun h => ⟨⟨hline, hend⟩, h.symm⟩, fun h => h.2.symm⟩

/-- Around the only line of a text, no window can be cut that is to reach as far as 64 bits can
tell. -/
theorem cutAround_greatest_size :
    let size : UInt64 := 18446744073709551615
    cutAround .refused (Text.linesOf "one") 1 size.toNat = .error .sum ∧
      cutAround .wrapped (Text.linesOf "one") 1 size.toNat = .error .range ∧
      around? "one" 1 size.toNat = none := by
  decide +kernel

end Retrace.SourceContext
