import Mathlib.Data.List.Forall2
import Retrace.Text.Lines

/-!
# Pieces of texts

A text is cut where a piece occurs, where a run of characters stops, at its last mark or at the
blanks around it. What each cut gives is said by how the text is put together from its parts.
-/

namespace Retrace.Text

/-- A reader goes on behind a condition if it holds. -/
theorem guard_bind_eq_some_iff {α : Type} {p : Prop} [Decidable p] {f : Unit → Option α} {a : α} :
    (guard p >>= f) = some a ↔ p ∧ f () = some a := by
  unfold guard
  split
  next hp => simp [hp]
  next hp => exact ⟨nofun, fun h => absurd h.1 hp⟩

/-- All values of a list are had, or one of them is not. -/
theorem mapM_eq_some_iff_forall₂ {α β : Type} {f : α → Option β} {as : List α} {bs : List β} :
    as.mapM f = some bs ↔ List.Forall₂ (fun a b => f a = some b) as bs := by
  induction as generalizing bs with
  | nil => simp [eq_comm]
  | cons a as ih =>
    rw [List.mapM_cons]
    constructor
    · intro h
      obtain ⟨b, hb, h⟩ := Option.bind_eq_some_iff.mp h
      obtain ⟨rest, hrest, h⟩ := Option.bind_eq_some_iff.mp h
      cases h
      exact .cons hb (ih.mp hrest)
    · rintro (_ | ⟨hb, hrest⟩)
      rw [hb, ih.mpr hrest]
      rfl

/-- A value is missing exactly where one of a list is. -/
theorem mapM_eq_none_iff {α β : Type} {f : α → Option β} {as : List α} :
    as.mapM f = none ↔ ∃ a ∈ as, f a = none := by
  induction as with
  | nil => simp
  | cons a as ih =>
    rw [List.mapM_cons]
    cases ha : f a with
    | none => simp [ha]
    | some b =>
      rw [List.exists_mem_cons_iff, ← ih]
      cases as.mapM f <;> simp [ha]

/-- Letters and digits lie in three ranges of ASCII. -/
theorem isAlphanum_iff {c : Char} :
    c.isAlphanum = true ↔ (65 ≤ c.toNat ∧ c.toNat ≤ 90 ∨ 97 ≤ c.toNat ∧ c.toNat ≤ 122) ∨
      48 ≤ c.toNat ∧ c.toNat ≤ 57 := by
  have hupper : c.isUpper = decide (c.val ≥ 'A'.val ∧ c.val ≤ 'Z'.val) := rfl
  have hlower : c.isLower = (decide (c.val ≥ 'a'.val) && decide (c.val ≤ 'z'.val)) := rfl
  have halphanum : c.isAlphanum = (c.isUpper || c.isLower || c.isDigit) := rfl
  rw [halphanum, hupper, hlower, Char.isDigit]
  simp only [Bool.or_eq_true, Bool.and_eq_true, decide_eq_true_eq]
  rfl

/-- A text in which a piece does not occur loses nothing. -/
theorem removeFirst_of_not_infix {piece text : List Char} (h : ¬ piece <:+: text) :
    removeFirst piece text = text := by
  induction text with
  | nil => rfl
  | cons c cs ih =>
    have hfirst : piece.isPrefixOf (c :: cs) = false := by
      rw [← Bool.not_eq_true, List.isPrefixOf_iff_prefix]
      exact fun hprefix => h hprefix.isInfix
    have hrest : ¬ piece <:+: cs := fun hoccurs => h (hoccurs.trans (List.suffix_cons c cs).isInfix)
    rw [removeFirst, hfirst, ih hrest]
    rfl

/-- A piece without a mark that begins a text ends before the mark. -/
theorem prefix_of_prefix_mark {piece before after : List Char} {mark : Char} (hmark : mark ∉ piece)
    (h : piece <+: before ++ mark :: after) : piece <+: before := by
  -- Of two beginnings of one text one begins the other.
  have hbefore : before ++ [mark] <+: before ++ mark :: after := ⟨after, by simp⟩
  rcases List.prefix_or_prefix_of_prefix h hbefore with hpiece | hpiece
  · rcases List.prefix_concat_iff.mp hpiece with rfl | hpiece
    · exact absurd (by simp) hmark
    · exact hpiece
  · exact absurd (hpiece.subset (by simp)) hmark

/-- A piece without a mark lies on one side of it. -/
theorem infix_or_infix_of_infix {piece before after : List Char} {mark : Char}
    (hmark : mark ∉ piece) (h : piece <:+: before ++ mark :: after) :
    piece <:+: before ∨ piece <:+: after := by
  induction before with
  | nil =>
    -- The piece begins at the mark, which it cannot hold, or behind it.
    rcases List.infix_cons_iff.mp h with h | h
    · exact .inl (prefix_of_prefix_mark hmark h).isInfix
    · exact .inr h
  | cons c before ih =>
    rcases List.infix_cons_iff.mp h with h | h
    · exact .inl (prefix_of_prefix_mark hmark h).isInfix
    · exact (ih h).imp_left fun h => h.trans (List.suffix_cons c before).isInfix

/-! ### Removing a piece -/

section Removing

variable {piece text before : List Char}

/-- A text without the first occurrence of a piece, if the piece occurs in it. -/
def LosesFirst (piece text rest : List Char) : Prop :=
  (¬ piece <:+: text ∧ rest = text) ∨
    ∃ before after, text = before ++ piece ++ after ∧ rest = before ++ after ∧
      ∀ front back, text = front ++ piece ++ back → before.length ≤ front.length

/-- A piece at the front of a text is removed there. -/
theorem removeFirst_eq_drop (h : piece <+: text) :
    removeFirst piece text = text.drop piece.length := by
  cases text with
  | nil => rw [removeFirst, List.drop_nil]
  | cons c cs => rw [removeFirst, if_pos (List.isPrefixOf_iff_prefix.mpr h)]

/-- If a piece is not at the front of a text, the first character stays. -/
theorem removeFirst_cons_eq_cons {c : Char} {cs : List Char} (h : ¬ piece <+: c :: cs) :
    removeFirst piece (c :: cs) = c :: removeFirst piece cs := by
  rw [removeFirst, if_neg fun hbegins => h (List.isPrefixOf_iff_prefix.mp hbegins)]

/-- The first occurrence of a piece is removed, and nothing else. -/
theorem losesFirst_removeFirst (piece text : List Char) :
    LosesFirst piece text (removeFirst piece text) := by
  by_cases hoccurs : piece <:+: text
  · refine .inr ?_
    induction text with
    | nil =>
      obtain rfl : piece = [] := List.infix_nil.mp hoccurs
      exact ⟨[], [], rfl, rfl, fun _ _ _ => Nat.zero_le _⟩
    | cons c cs ih =>
      by_cases hbegins : piece <+: c :: cs
      · obtain ⟨after, hafter⟩ := hbegins
        refine ⟨[], after, hafter.symm, ?_, fun _ _ _ => Nat.zero_le _⟩
        rw [removeFirst_eq_drop ⟨after, hafter⟩, ← hafter, List.drop_left, List.nil_append]
      · have hrest : piece <:+: cs := (List.infix_cons_iff.mp hoccurs).resolve_left hbegins
        obtain ⟨before, after, htext, hremove, hfirst⟩ := ih hrest
        refine ⟨c :: before, after, by rw [htext]; rfl, ?_, fun front back hsplit => ?_⟩
        · rw [removeFirst_cons_eq_cons hbegins, hremove, List.cons_append]
        · -- Another occurrence is not at the front, so it is one in the rest.
          cases front with
          | nil => exact absurd ⟨back, hsplit.symm⟩ hbegins
          | cons d front =>
            have hsame : cs = front ++ piece ++ back := (List.cons.inj hsplit).2
            exact Nat.succ_le_succ (hfirst front back hsame)
  · exact .inl ⟨hoccurs, removeFirst_of_not_infix hoccurs⟩

/-- A text is left as it is only if the piece does not occur in it. -/
theorem removeFirst_eq_self_iff (hne : piece ≠ []) :
    removeFirst piece text = text ↔ ¬ piece <:+: text := by
  refine ⟨fun hsame => ?_, removeFirst_of_not_infix⟩
  rcases losesFirst_removeFirst piece text with ⟨hnot, -⟩ | ⟨before, after, htext, hremove, -⟩
  · exact hnot
  · have hlength : (before ++ piece ++ after).length = (before ++ after).length := by
      rw [← htext, ← hremove, hsame]
    have hpos : 0 < piece.length := List.length_pos_iff.mpr hne
    simp only [List.length_append] at hlength
    omega

/-- What stands behind a part in which a piece occurs stays. -/
theorem removeFirst_append_of_infix (hne : piece ≠ []) (h : piece <:+: before)
    (after : List Char) :
    removeFirst piece (before ++ after) = removeFirst piece before ++ after := by
  induction before with
  | nil => exact absurd (List.infix_nil.mp h) hne
  | cons c before ih =>
    by_cases hbegins : piece <+: c :: before
    · rw [removeFirst_eq_drop hbegins,
        removeFirst_eq_drop (hbegins.trans (List.prefix_append _ _)),
        List.drop_append_of_le_length hbegins.length_le]
    · have hrest : piece <:+: before := (List.infix_cons_iff.mp h).resolve_left hbegins
      -- The piece is no longer than the part, so it does not reach behind it either.
      have hlong : ¬ piece <+: c :: (before ++ after) := fun hlong =>
        hbegins (List.prefix_of_prefix_length_le hlong (List.prefix_append (c :: before) after)
          (Nat.le_succ_of_le hrest.length_le))
      rw [List.cons_append, removeFirst_cons_eq_cons hlong,
        removeFirst_cons_eq_cons hbegins, ih hrest, List.cons_append]

/-- A part without the piece stays, if a mark that the piece does not have stands behind it. -/
theorem removeFirst_append_cons {mark : Char} (hne : piece ≠ []) (hmark : mark ∉ piece)
    (h : ¬ piece <:+: before) (after : List Char) :
    removeFirst piece (before ++ mark :: after) = before ++ mark :: removeFirst piece after := by
  induction before with
  | nil =>
    have hbegins : ¬ piece <+: mark :: after := fun hbegins => by
      have hempty : piece <+: [] := prefix_of_prefix_mark hmark hbegins
      exact hne (List.prefix_nil.mp hempty)
    exact removeFirst_cons_eq_cons hbegins
  | cons c before ih =>
    have hbegins : ¬ piece <+: c :: (before ++ mark :: after) := fun hbegins => by
      have hbefore : piece <+: c :: before := prefix_of_prefix_mark hmark hbegins
      exact h hbefore.isInfix
    have hrest : ¬ piece <:+: before := fun hoccurs =>
      h (hoccurs.trans (List.suffix_cons c before).isInfix)
    rw [List.cons_append, removeFirst_cons_eq_cons hbegins, ih hrest, List.cons_append]

end Removing

/-! ### The end of a text -/

/-- What a text ends in is dropped, up to the first character from behind that does not satisfy the
predicate. -/
theorem dropTrailing_spec (p : Char → Bool) (text : List Char) :
    ∃ tail, text = dropTrailing p text ++ tail ∧ (∀ c ∈ tail, p c = true) ∧
      ∀ c, (dropTrailing p text).getLast? = some c → p c = false := by
  refine ⟨(text.reverse.takeWhile p).reverse, ?_, ?_, ?_⟩
  · unfold dropTrailing
    rw [← List.reverse_append, List.takeWhile_append_dropWhile, List.reverse_reverse]
  · intro c hc
    exact List.all_eq_true.mp List.all_takeWhile c (List.mem_reverse.mp hc)
  · intro c hc
    have hhead := List.head?_dropWhile_not p text.reverse
    unfold dropTrailing at hc
    rw [List.getLast?_reverse] at hc
    rw [hc] at hhead
    simpa using hhead

/-- A text in front of which something stands ends as before. -/
theorem getLast?_append_of_ne_nil {front text : List Char} (h : text ≠ []) :
    (front ++ text).getLast? = text.getLast? := by
  rw [List.getLast?_append, Option.or_of_isSome (by simpa using h)]

/-! ### Runs of characters -/

section Runs

variable {α : Type} {p : α → Bool} {run rest : List α}

/-- A run of characters that satisfy a predicate is taken up to where it stops. -/
theorem takeWhile_append_of_stop (hrun : ∀ c ∈ run, p c = true)
    (hrest : ∀ c ∈ rest.head?, p c = false) : (run ++ rest).takeWhile p = run := by
  rw [List.takeWhile_append_of_pos hrun]
  cases rest with
  | nil => simp
  | cons c rest => simp [hrest c rfl]

/-- A run of characters that satisfy a predicate is dropped up to where it stops. -/
theorem dropWhile_append_of_stop (hrun : ∀ c ∈ run, p c = true)
    (hrest : ∀ c ∈ rest.head?, p c = false) : (run ++ rest).dropWhile p = rest := by
  rw [List.dropWhile_append_of_pos hrun]
  cases rest with
  | nil => rfl
  | cons c rest => simp [hrest c rfl]

/-- Where a run has been dropped, it has stopped. -/
theorem head?_dropWhile_eq_false {text : List α} {c : α}
    (h : (text.dropWhile p).head? = some c) : p c = false := by
  have hstop := List.head?_dropWhile_not p text
  rw [h] at hstop
  exact hstop

end Runs

/-! ### The last mark -/

/-- A text is split at its last mark. -/
theorem splitLast?_eq_some_iff {mark : Char} {text before after : List Char} :
    splitLast? mark text = some (before, after) ↔
      text = before ++ mark :: after ∧ mark ∉ after := by
  have hsplit := List.takeWhile_append_dropWhile (p := (· ≠ mark)) (l := text.reverse)
  constructor
  · intro h
    unfold splitLast? at h
    dsimp only at h
    split at h
    next => cases h
    next m rest hdrop =>
      cases h
      -- Backwards, the run up to the mark is what stands behind it.
      obtain rfl : m = mark := by
        simpa using head?_dropWhile_eq_false (p := (· ≠ mark)) (congrArg List.head? hdrop)
      rw [hdrop] at hsplit
      refine ⟨?_, ?_⟩
      · simpa using (congrArg List.reverse hsplit).symm
      · intro hmem
        have := List.all_eq_true.mp List.all_takeWhile m (List.mem_reverse.mp hmem)
        simp at this
  · rintro ⟨rfl, hafter⟩
    have hrun : ∀ c ∈ after.reverse, decide (c ≠ mark) = true := by
      intro c hc
      simpa using fun h : c = mark => hafter (h ▸ List.mem_reverse.mp hc)
    have hreverse :
        (before ++ mark :: after).reverse = after.reverse ++ mark :: before.reverse := by
      simp
    have hstop : ∀ c ∈ (mark :: before.reverse).head?, decide (c ≠ mark) = false := by simp
    unfold splitLast?
    dsimp only
    rw [hreverse, dropWhile_append_of_stop hrun hstop, takeWhile_append_of_stop hrun hstop]
    simp

/-! ### Blanks -/

/-- No visible character of ASCII is blank. -/
theorem isBlank_eq_false_of_isVisible {c : Char} (h : 33 ≤ c.toNat ∧ c.toNat ≤ 126) :
    Unicode.isBlank c = false := by
  -- All blanks but the controls and the space lie beyond ASCII.
  unfold Unicode.isBlank
  simp only [Bool.or_eq_false_iff, Bool.and_eq_false_iff, decide_eq_false_iff_not,
    beq_eq_false_iff_ne]
  omega

/-- Whether a text has no blank can be checked. -/
theorem isBlank_eq_false_of_all {text : List Char} (h : text.all (!Unicode.isBlank ·) = true) :
    ∀ c ∈ text, Unicode.isBlank c = false := by
  simpa using h

/-- A text is another one without the blanks at both ends. -/
structure IsTrim (text trimmed : List Char) : Prop where
  /-- What is missing are blanks. -/
  blanks : ∃ front back, text = front ++ trimmed ++ back ∧
    (∀ c ∈ front, Unicode.isBlank c = true) ∧ ∀ c ∈ back, Unicode.isBlank c = true
  /-- No blank is at the front. -/
  head : ∀ c ∈ trimmed.head?, Unicode.isBlank c = false
  /-- No blank is at the end. -/
  last : ∀ c ∈ trimmed.getLast?, Unicode.isBlank c = false

variable {p : Char → Bool}

/-- What satisfies the predicate at the end does not matter. -/
theorem dropTrailing_append {text tail : List Char} (h : ∀ c ∈ tail, p c = true) :
    dropTrailing p (text ++ tail) = dropTrailing p text := by
  unfold dropTrailing
  rw [List.reverse_append, List.dropWhile_append_of_pos fun c hc => h c (List.mem_reverse.mp hc)]

/-- A text whose last character does not satisfy the predicate stays. -/
theorem dropTrailing_eq_self {text : List Char} (h : ∀ c ∈ text.getLast?, p c = false) :
    dropTrailing p text = text := by
  unfold dropTrailing
  rw [← List.nil_append text.reverse,
    dropWhile_append_of_stop (by simp) (by simpa [List.head?_reverse] using h),
    List.reverse_reverse]

/-- A text without blanks at its ends stays, whatever blanks stand around it. -/
theorem IsTrim.eq_trim {text trimmed : List Char} (h : IsTrim text trimmed) :
    trimmed = trim text := by
  obtain ⟨⟨front, back, rfl, hfront, hback⟩, hhead, hlast⟩ := h
  unfold trim
  rw [List.append_assoc, List.dropWhile_append_of_pos hfront]
  cases trimmed with
  | nil =>
    -- All characters are blank.
    rw [List.nil_append, ← List.append_nil back, List.dropWhile_append_of_pos hback]
    rfl
  | cons c trimmed =>
    rw [List.cons_append, List.dropWhile_cons_of_neg (by simp [hhead c rfl]), ← List.cons_append,
      dropTrailing_append hback, dropTrailing_eq_self hlast]

/-- Trimming removes the blanks at both ends, and nothing else. -/
theorem isTrim_trim (text : List Char) : IsTrim text (trim text) := by
  obtain ⟨back, hsplit, hback, hlast⟩ :=
    dropTrailing_spec Unicode.isBlank (text.dropWhile Unicode.isBlank)
  refine ⟨⟨text.takeWhile Unicode.isBlank, back, ?_, ?_, hback⟩, ?_, fun c hc => hlast c hc⟩
  · unfold trim
    rw [List.append_assoc, ← hsplit, List.takeWhile_append_dropWhile]
  · exact fun c hc => List.all_eq_true.mp List.all_takeWhile c hc
  · intro c hc
    -- The first character that is left is the first one that is no blank.
    have hfirst : (text.dropWhile Unicode.isBlank).head? = some c := by
      rw [hsplit, List.head?_append, show (dropTrailing _ _).head? = some c from hc]
      rfl
    exact head?_dropWhile_eq_false hfirst

/-- A text without blanks at its ends stays. -/
theorem isTrim_self {text : List Char} (hhead : ∀ c ∈ text.head?, Unicode.isBlank c = false)
    (hlast : ∀ c ∈ text.getLast?, Unicode.isBlank c = false) : IsTrim text text :=
  ⟨⟨[], [], by simp, by simp, by simp⟩, hhead, hlast⟩

/-- Blanks behind a text do not matter. -/
theorem trim_append_of_isBlank {text tail : List Char}
    (h : ∀ c ∈ tail, Unicode.isBlank c = true) : trim (text ++ tail) = trim text := by
  obtain ⟨⟨front, back, htext, hfront, hback⟩, hhead, hlast⟩ := isTrim_trim text
  have hblanks : ∀ c ∈ back ++ tail, Unicode.isBlank c = true := by
    intro c hc
    rcases List.mem_append.mp hc with hc | hc
    · exact hback c hc
    · exact h c hc
  have hsplit : text ++ tail = front ++ trim text ++ (back ++ tail) := by
    rw [← List.append_assoc, ← htext]
  exact (IsTrim.eq_trim ⟨⟨front, back ++ tail, hsplit, hfront, hblanks⟩, hhead, hlast⟩).symm

/-- A carriage return at the end does not matter. -/
theorem trim_dropCarriageReturn (line : List Char) :
    trim (dropCarriageReturn line) = trim line := by
  unfold dropCarriageReturn
  split
  next h =>
    obtain ⟨front, rfl⟩ := List.getLast?_eq_some_iff.mp h
    rw [List.dropLast_concat, trim_append_of_isBlank]
    intro c hc
    rw [List.mem_singleton.mp hc]
    decide
  next => rfl

/-- Trimming is told by what it leaves. -/
theorem isTrim_iff {text trimmed : List Char} : IsTrim text trimmed ↔ trimmed = trim text :=
  ⟨IsTrim.eq_trim, fun h => h ▸ isTrim_trim text⟩

/-! ### Pieces between marks -/

/-- A mark separates pieces. -/
theorem splitOn_append_cons (mark : Char) (before after : List Char) :
    (before ++ mark :: after).splitOn mark = before.splitOn mark ++ after.splitOn mark := by
  simp only [List.splitOn_eq_splitOnP]
  exact List.splitOnP_append_cons before after (beq_self_eq_true mark)

/-- The characters of a split text are those of its pieces and the separators. -/
theorem mem_of_mem_splitOn {separator c : Char} {text piece : List Char}
    (hpiece : piece ∈ text.splitOn separator) (hc : c ∈ piece) : c ∈ text ∧ c ≠ separator := by
  induction text generalizing piece with
  | nil => simp_all
  | cons d text ih =>
    rw [List.splitOn_cons_eq_if_modifyHead] at hpiece
    split at hpiece
    next hd =>
      rcases List.mem_cons.mp hpiece with rfl | hpiece
      · simp at hc
      · obtain ⟨hmem, hne⟩ := ih hpiece hc
        exact ⟨List.mem_cons_of_mem _ hmem, hne⟩
    next hd =>
      -- The character goes in front of the first piece of the rest.
      obtain ⟨first, pieces, hsplit⟩ :=
        List.exists_cons_of_ne_nil (List.splitOn_ne_nil separator text)
      rw [hsplit, List.modifyHead_cons] at hpiece
      rcases List.mem_cons.mp hpiece with rfl | hpiece
      · rcases List.mem_cons.mp hc with rfl | hc
        · exact ⟨List.mem_cons_self, by simpa using hd⟩
        · obtain ⟨hmem, hne⟩ := ih (hsplit ▸ List.mem_cons_self) hc
          exact ⟨List.mem_cons_of_mem _ hmem, hne⟩
      · obtain ⟨hmem, hne⟩ := ih (hsplit ▸ List.mem_cons_of_mem _ hpiece) hc
        exact ⟨List.mem_cons_of_mem _ hmem, hne⟩

/-! ### Lines -/

/-- Pieces with a line feed behind each are pieces between line feeds, and an empty one. -/
theorem flatMap_concat_eq_intercalate (pieces : List (List Char)) :
    pieces.flatMap (· ++ ['\n']) = ['\n'].intercalate (pieces ++ [[]]) := by
  induction pieces with
  | nil => rfl
  | cons piece pieces ih =>
    rw [List.flatMap_cons, ih]
    cases pieces with
    | nil => simp [List.intercalate]
    | cons next pieces => exact List.intercalate_cons_cons.symm

/-- Pieces with a line feed behind each are the lines of the whole, but for carriage returns. -/
theorem lines_flatMap_concat {pieces : List (List Char)} (h : ∀ piece ∈ pieces, '\n' ∉ piece) :
    lines (pieces.flatMap (· ++ ['\n'])) = pieces.map dropCarriageReturn := by
  have hall : ∀ piece ∈ pieces ++ [[]], '\n' ∉ piece := by
    intro piece hpiece
    rcases List.mem_append.mp hpiece with hpiece | hpiece
    · exact h piece hpiece
    · rw [List.mem_singleton.mp hpiece]
      exact List.not_mem_nil
  unfold lines
  dsimp only
  rw [flatMap_concat_eq_intercalate, List.splitOn_intercalate '\n' hall (by simp),
    List.dropLast_concat, List.getLast?_concat]

/-- A text is put together from these lines, each with its line end. Behind the last one there need
not be a line end, unless the line is empty. -/
inductive AreLines : List Char → List (List Char) → Prop
  /-- A text without characters has no line. -/
  | nil : AreLines [] []
  /-- The last line may go on to the end of the text. -/
  | last {line : List Char} (hline : '\n' ∉ line) (hne : line ≠ []) : AreLines line [line]
  /-- A line may end at a line feed. -/
  | feed {line rest : List Char} {others : List (List Char)} (hline : '\n' ∉ line)
    (hreturn : line.getLast? ≠ some '\r') (hrest : AreLines rest others) :
    AreLines (line ++ '\n' :: rest) (line :: others)
  /-- A line may end at a carriage return and a line feed. -/
  | returnFeed {line rest : List Char} {others : List (List Char)} (hline : '\n' ∉ line)
    (hrest : AreLines rest others) : AreLines (line ++ '\r' :: '\n' :: rest) (line :: others)

/-- A text without a line feed is one line, or none if it is empty. -/
theorem lines_of_not_mem {line : List Char} (h : '\n' ∉ line) :
    lines line = if line = [] then [] else [line] := by
  unfold lines
  rw [List.splitOn_eq_singleton h]
  cases line <;> rfl

/-- What stands before the first line feed is the first line. -/
theorem lines_append_cons {line : List Char} (rest : List Char) (h : '\n' ∉ line) :
    lines (line ++ '\n' :: rest) = dropCarriageReturn line :: lines rest := by
  have hne : rest.splitOn '\n' ≠ [] := List.splitOn_ne_nil _ rest
  unfold lines
  rw [splitOn_append_cons, List.splitOn_eq_singleton h, List.singleton_append]
  dsimp only
  rw [List.dropLast_cons_of_ne_nil hne, List.getLast?_cons_of_ne_nil hne, List.map_cons]
  split <;> rfl

/-- Each text is put together from its lines. -/
theorem areLines_lines (text : List Char) : AreLines text (lines text) := by
  -- The induction is on the length, since the rest behind a line is what is shorter.
  induction hlength : text.length using Nat.strongRecOn generalizing text with
  | _ n ih =>
    by_cases hmem : '\n' ∈ text
    · obtain ⟨line, rest, rfl, hline⟩ := List.eq_append_cons_of_mem hmem
      have hrest : AreLines rest (lines rest) :=
        ih rest.length (by rw [← hlength]; simp; omega) rest rfl
      rw [lines_append_cons rest hline]
      unfold dropCarriageReturn
      split
      next hreturn =>
        obtain ⟨front, rfl⟩ := List.getLast?_eq_some_iff.mp hreturn
        rw [List.dropLast_concat, List.append_assoc]
        exact .returnFeed (fun h => hline (List.mem_append_left _ h)) hrest
      next hreturn => exact .feed hline hreturn hrest
    · rw [lines_of_not_mem hmem]
      split
      next hempty => exact hempty ▸ .nil
      next hne => exact .last hmem hne

/-- A text is put together from its lines in no other way. -/
theorem AreLines.eq_lines {text : List Char} {others : List (List Char)}
    (h : AreLines text others) : others = lines text := by
  induction h with
  | nil => rfl
  | last hline hne => rw [lines_of_not_mem hline, if_neg hne]
  | feed hline hreturn _ ih =>
    rw [lines_append_cons _ hline, ← ih, dropCarriageReturn, if_neg hreturn]
  | @returnFeed line rest _ hline _ ih =>
    have hall : '\n' ∉ line ++ ['\r'] := by simpa using hline
    have hsplit : line ++ '\r' :: '\n' :: rest = (line ++ ['\r']) ++ '\n' :: rest := by simp
    rw [hsplit, lines_append_cons _ hall, ← ih, dropCarriageReturn,
      if_pos List.getLast?_concat, List.dropLast_concat]

/-- No line goes beyond its end. -/
theorem AreLines.newline_notMem {text : List Char} {others : List (List Char)}
    (h : AreLines text others) : ∀ line ∈ others, '\n' ∉ line := by
  induction h with
  | nil => exact fun _ hmem => absurd hmem List.not_mem_nil
  | last hline _ =>
    intro line hmem
    rwa [List.mem_singleton.mp hmem]
  | feed hline _ _ ih => exact List.forall_mem_cons.mpr ⟨hline, ih⟩
  | returnFeed hline _ ih => exact List.forall_mem_cons.mpr ⟨hline, ih⟩

/-- The lines of a string are told by how it is put together from them. -/
theorem areLines_iff_eq_linesOf {text : String} {others : List String} :
    AreLines text.toList (others.map String.toList) ↔ others = linesOf text := by
  have htoList : (linesOf text).map String.toList = lines text.toList := by
    unfold linesOf
    rw [List.map_map]
    exact List.map_id'' (fun _ => String.toList_ofList) _
  constructor
  · intro h
    unfold linesOf
    rw [← h.eq_lines, List.map_map]
    exact (List.map_id'' (fun _ => String.ofList_toList) _).symm
  · rintro rfl
    rw [htoList]
    exact areLines_lines text.toList

/-- No line of a string has a line feed. -/
theorem newline_notMem_of_mem_linesOf {text line : String} (h : line ∈ linesOf text) :
    '\n' ∉ line.toList := by
  obtain ⟨cs, hcs, rfl⟩ := List.mem_map.mp h
  rw [String.toList_ofList]
  exact (areLines_lines text.toList).newline_notMem cs hcs

end Retrace.Text
