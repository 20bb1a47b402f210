import Retrace.Frame
import Retrace.Proofs.Decimal
import Retrace.Proofs.Text

/-!
# The grammar of stack frames

Which lines state a frame is said twice: by the reader, and by a grammar that puts a text together
from the parts of a frame. The two agree: `readNamed?_eq_some_iff` and `readAnonymous?_eq_some_iff`
say so of the two shapes, `read?_eq_some_iff` of a line.

The parts are cut off from behind, column and line first, since neither holds a colon. What is left
of a named call can be cut in several ways, of which the reader takes the last one
(`splitCall?_eq_some_iff`). It finds a cut wherever there is any (`exists_readNamed?_iff`).
-/

namespace Retrace.Frame

/-! ### Parts -/

/-- Digits that state a line or a column. -/
structure IsCoordinate (digits : List Char) (value : UInt32) : Prop where
  /-- There is a digit. -/
  ne_nil : digits ≠ []
  /-- There are only digits. -/
  isDigit : ∀ c ∈ digits, c.isDigit = true
  /-- They stand for the number. -/
  value_eq : Nat.ofDigitChars 10 digits 0 = value.toNat

/-- What the file of an anonymous call starts with. -/
inductive IsRoot : List Char → Prop where
  /-- The root of absolute paths. -/
  | slash : IsRoot ['/']
  /-- A drive. -/
  | drive {letter separator : Char} (hletter : letter.isAlpha = true)
      (hseparator : separator = '/' ∨ separator = '\\') : IsRoot [letter, ':', separator]
  /-- The scheme of a URL. -/
  | scheme {letter : Char} {name : List Char} (hletter : letter.isAlpha = true)
      (hname : ∀ c ∈ name, c.isAlphanum = true ∨ c = '+' ∨ c = '.' ∨ c = '-') :
      IsRoot (letter :: (name ++ [':', '/', '/']))

/-- A file goes on behind a root. -/
def HasRoot (file : List Char) : Prop :=
  ∃ root rest, IsRoot root ∧ rest ≠ [] ∧ file = root ++ rest

/-- A parenthesis follows a space and is followed by anything. -/
def HasOpening (text : List Char) : Prop :=
  ∃ before after, text = before ++ ' ' :: '(' :: after ∧ after ≠ []

/-! ### Shapes -/

/-- A text is the named call of a frame, `name (file:line:column)`. -/
def IsNamedCall (text : List Char) (frame : Frame) : Prop :=
  ∃ (name : String) (line column : List Char), frame.methodName = some name ∧
    text = name.toList ++ ' ' :: '(' ::
      (frame.file.toList ++ ':' :: (line ++ ':' :: (column ++ [')']))) ∧
    (name ≠ "" ∧ '\n' ∉ name.toList) ∧ (frame.file ≠ "" ∧ '\n' ∉ frame.file.toList) ∧
    IsCoordinate line frame.line ∧ IsCoordinate column frame.column

/-- A text is the anonymous call of a frame, `file:line:column`. -/
def IsAnonymousCall (text : List Char) (frame : Frame) : Prop :=
  ∃ line column : List Char, frame.methodName = none ∧
    text = frame.file.toList ++ ':' :: (line ++ ':' :: column) ∧
    (HasRoot frame.file.toList ∧ '\n' ∉ frame.file.toList) ∧
    IsCoordinate line frame.line ∧ IsCoordinate column frame.column

/-- A text is what stands behind an `at` and the blanks after it, or the whole when it does not
start so. -/
def IsBehindAt (text behind : List Char) : Prop :=
  (∃ blanks, text = 'a' :: 't' :: (blanks ++ behind) ∧
    blanks ≠ [] ∧ (∀ c ∈ blanks, Unicode.isBlank c = true) ∧
    ∀ c ∈ behind.head?, Unicode.isBlank c = false) ∨
  (behind = text ∧ ∀ c rest, text = 'a' :: 't' :: c :: rest → Unicode.isBlank c = false)

/-- A text is the part of a line that states the frame: the line without blanks at both ends,
without an `at` and without the blanks that then stand at the ends. -/
def IsCore (line text : List Char) : Prop :=
  ∃ trimmed behind, Text.IsTrim line trimmed ∧ IsBehindAt trimmed behind ∧
    Text.IsTrim behind text

variable {text file before call : List Char} {line column value : UInt32} {frame : Frame}

/-! ### Coordinates -/

/-- A coordinate is read. -/
theorem digits?_eq_some_iff_isCoordinate {digits : List Char} :
    Decimal.digits? coordinateBound digits = some value.toNat ↔ IsCoordinate digits value := by
  rw [Decimal.digits?_eq_some_iff]
  constructor
  · rintro ⟨hne, hdigits, hvalue, -⟩
    exact ⟨hne, hdigits, hvalue⟩
  · rintro ⟨hne, hdigits, hvalue⟩
    exact ⟨hne, hdigits, hvalue, value.toNat_lt⟩

/-- No colon stands inside a coordinate. -/
theorem IsCoordinate.colon_not_mem {digits : List Char} (h : IsCoordinate digits value) :
    ':' ∉ digits :=
  fun hmem => absurd (h.isDigit _ hmem) (by decide)

/-- A coordinate is split off behind the last colon. -/
theorem splitCoordinate?_eq_some_iff :
    splitCoordinate? text = some (before, value) ↔
      ∃ digits, IsCoordinate digits value ∧ text = before ++ ':' :: digits := by
  unfold splitCoordinate?
  constructor
  · intro h
    obtain ⟨⟨before', digits⟩, hsplit, h⟩ := Option.bind_eq_some_iff.mp h
    obtain ⟨n, hdigits, h⟩ := Option.bind_eq_some_iff.mp h
    cases h
    have hlt : n < UInt32.size := (Decimal.digits?_eq_some_iff.mp hdigits).2.2.2
    refine ⟨digits, digits?_eq_some_iff_isCoordinate.mp ?_, ?_⟩
    · rw [UInt32.toNat_ofNat_of_lt' hlt, hdigits]
    · exact (Text.splitLast?_eq_some_iff.mp hsplit).1
  · rintro ⟨digits, hdigits, rfl⟩
    have hsplit : Text.splitLast? ':' (before ++ ':' :: digits) = some (before, digits) :=
      Text.splitLast?_eq_some_iff.mpr ⟨rfl, hdigits.colon_not_mem⟩
    rw [hsplit]
    show ((Decimal.digits? coordinateBound digits).bind _) = _
    rw [digits?_eq_some_iff_isCoordinate.mpr hdigits]
    show some (before, UInt32.ofNat value.toNat) = _
    rw [UInt32.ofNat_toNat]

/-- Line and column are split off behind the last two colons. -/
theorem splitLocation?_eq_some_iff :
    splitLocation? text = some (before, line, column) ↔
      ∃ l c, IsCoordinate l line ∧ IsCoordinate c column ∧
        text = before ++ ':' :: (l ++ ':' :: c) := by
  unfold splitLocation?
  constructor
  · intro h
    obtain ⟨⟨rest, column'⟩, hcolumn, h⟩ := Option.bind_eq_some_iff.mp h
    obtain ⟨⟨before', line'⟩, hline, h⟩ := Option.bind_eq_some_iff.mp h
    cases h
    obtain ⟨c, hc, rfl⟩ := splitCoordinate?_eq_some_iff.mp hcolumn
    obtain ⟨l, hl, rfl⟩ := splitCoordinate?_eq_some_iff.mp hline
    exact ⟨l, c, hl, hc, by simp⟩
  · rintro ⟨l, c, hl, hc, rfl⟩
    have hcolumn : splitCoordinate? (before ++ ':' :: (l ++ ':' :: c)) =
        some (before ++ ':' :: l, column) :=
      splitCoordinate?_eq_some_iff.mpr ⟨c, hc, by simp⟩
    have hline : splitCoordinate? (before ++ ':' :: l) = some (before, line) :=
      splitCoordinate?_eq_some_iff.mpr ⟨l, hl, rfl⟩
    rw [hcolumn]
    show ((splitCoordinate? (before ++ ':' :: l)).bind _) = _
    rw [hline]
    rfl

/-! ### Cutting a call -/

/-- A parenthesis behind a space is the first two characters or stands further on. -/
theorem hasOpening_cons {c : Char} :
    HasOpening (c :: text) ↔
      (c = ' ' ∧ ∃ after, text = '(' :: after ∧ after ≠ []) ∨ HasOpening text := by
  constructor
  · rintro ⟨before, after, htext, hafter⟩
    cases before with
    | nil =>
      cases htext
      exact .inl ⟨rfl, after, rfl, hafter⟩
    | cons b before =>
      cases htext
      exact .inr ⟨before, after, rfl, hafter⟩
  · rintro (⟨rfl, after, rfl, hafter⟩ | ⟨before, after, rfl, hafter⟩)
    · exact ⟨[], after, rfl, hafter⟩
    · exact ⟨c :: before, after, rfl, hafter⟩

/-- A cut further on wins. -/
theorem splitCall?_cons_of_some {c : Char} {name : List Char}
    (h : splitCall? text = some (name, file)) :
    splitCall? (c :: text) = some (c :: name, file) := by
  unfold splitCall?
  rw [h]

/-- Without a cut further on, a text is cut at its first two characters or not at all. -/
theorem splitCall?_cons_of_none {c : Char} {name : List Char} (h : splitCall? text = none) :
    splitCall? (c :: text) = some (name, file) ↔
      name = [] ∧ c = ' ' ∧ text = '(' :: file ∧ file ≠ [] := by
  unfold splitCall?
  rw [h]
  dsimp only
  split
  next d rest =>
    constructor
    · intro h
      cases h
      exact ⟨rfl, rfl, rfl, List.cons_ne_nil _ _⟩
    · rintro ⟨rfl, -, htext, -⟩
      cases htext
      rfl
  next hno =>
    refine ⟨nofun, ?_⟩
    rintro ⟨-, rfl, rfl, hfile⟩
    obtain ⟨d, rest, rfl⟩ := List.exists_cons_of_ne_nil hfile
    exact absurd rfl (hno d rest rfl)

/-- A call is cut if it has a parenthesis to be cut at. -/
theorem exists_splitCall?_iff :
    (∃ name file, splitCall? text = some (name, file)) ↔ HasOpening text := by
  induction text with
  | nil => simp [splitCall?, HasOpening]
  | cons c text ih =>
    rw [hasOpening_cons, ← ih]
    cases hrest : splitCall? text with
    | some cut =>
      obtain ⟨name, file⟩ := cut
      simp [splitCall?_cons_of_some hrest]
    | none => simp [splitCall?_cons_of_none hrest]

/-- A call is cut at the last parenthesis that follows a space and is followed by anything. -/
theorem splitCall?_eq_some_iff {name : List Char} :
    splitCall? text = some (name, file) ↔
      text = name ++ ' ' :: '(' :: file ∧ file ≠ [] ∧ ¬ HasOpening file := by
  induction text generalizing name with
  | nil => simp [splitCall?]
  | cons c text ih =>
    cases hrest : splitCall? text with
    | some cut =>
      obtain ⟨name', file'⟩ := cut
      rw [splitCall?_cons_of_some hrest]
      constructor
      · intro h
        cases h
        obtain ⟨rfl, hfile⟩ := ih.mp hrest
        exact ⟨rfl, hfile⟩
      · rintro ⟨htext, hfile, hno⟩
        cases name with
        | nil =>
          -- The file would be cut once more.
          cases htext
          have hopening := exists_splitCall?_iff.mp ⟨_, _, hrest⟩
          rw [hasOpening_cons] at hopening
          exact absurd (hopening.resolve_left (by simp)) hno
        | cons b name =>
          cases htext
          have hcut := ih.mpr ⟨rfl, hfile, hno⟩
          rw [hrest] at hcut
          cases hcut
          rfl
    | none =>
      have hopening : ¬ HasOpening text := by
        rw [← exists_splitCall?_iff]
        simp [hrest]
      rw [splitCall?_cons_of_none hrest]
      constructor
      · rintro ⟨rfl, rfl, rfl, hfile⟩
        exact ⟨rfl, hfile, fun h => hopening (hasOpening_cons.mpr (.inr h))⟩
      · rintro ⟨htext, hfile, -⟩
        cases name with
        | nil =>
          cases htext
          exact ⟨rfl, rfl, rfl, hfile⟩
        | cons b name =>
          cases htext
          exact absurd ⟨name, file, rfl, hfile⟩ hopening

/-! ### Named calls -/

/-- A call whose name is cut off has a name before every cut. -/
theorem ne_nil_of_cut {name name' file' : List Char} (hname : name ≠ [])
    (h : name ++ ' ' :: '(' :: file = name' ++ ' ' :: '(' :: file') (hfile : file ≠ [])
    (hno : ¬ HasOpening file') : name' ≠ [] := by
  rintro rfl
  rw [List.nil_append] at h
  -- The cut that leaves no name stands before the one that leaves a name.
  obtain ⟨b, name, rfl⟩ := List.exists_cons_of_ne_nil hname
  obtain ⟨-, h⟩ := List.cons_eq_cons.mp h
  cases name with
  | nil => simp at h
  | cons c name =>
    obtain ⟨-, h⟩ := List.cons_eq_cons.mp h
    exact hno ⟨name, file, h.symm, hfile⟩

/-- What is read as a named call is cut off part by part. -/
theorem readNamed?_eq_some_iff_parts :
    readNamed? text = some frame ↔ ∃ rest call name file, text = rest ++ [')'] ∧
      splitLocation? rest = some (call, frame.line, frame.column) ∧
      splitCall? call = some (name, file) ∧ name ≠ [] ∧ '\n' ∉ call ∧
      frame.methodName = some (String.ofList name) ∧ frame.file = String.ofList file := by
  unfold readNamed?
  rw [Text.guard_bind_eq_some_iff, List.getLast?_eq_some_iff]
  constructor
  · rintro ⟨⟨rest, rfl⟩, h⟩
    rw [List.dropLast_concat] at h
    obtain ⟨⟨call, line, column⟩, hlocation, h⟩ := Option.bind_eq_some_iff.mp h
    obtain ⟨⟨name, file⟩, hcall, h⟩ := Option.bind_eq_some_iff.mp h
    obtain ⟨hguard, h⟩ := Text.guard_bind_eq_some_iff.mp h
    cases h
    exact ⟨rest, call, name, file, rfl, hlocation, hcall, by simpa using hguard.1,
      by simpa using hguard.2, rfl, rfl⟩
  · rintro ⟨rest, call, name, file, rfl, hlocation, hcall, hname, hline, hmethod, hfile⟩
    refine ⟨⟨rest, rfl⟩, ?_⟩
    rw [List.dropLast_concat]
    refine Option.bind_eq_some_iff.mpr ⟨_, hlocation, Option.bind_eq_some_iff.mpr ⟨_, hcall, ?_⟩⟩
    refine Text.guard_bind_eq_some_iff.mpr ⟨by simp [hname, hline], ?_⟩
    rw [← hmethod, ← hfile]
    rfl

/-- A frame is read from a text as a named call if the text is its named call and its file is not
cut any further. -/
theorem readNamed?_eq_some_iff :
    readNamed? text = some frame ↔ IsNamedCall text frame ∧ ¬ HasOpening frame.file.toList := by
  rw [readNamed?_eq_some_iff_parts]
  constructor
  · rintro ⟨rest, call, name, file, rfl, hlocation, hcall, hname, hline, hmethod, hfile⟩
    obtain ⟨l, c, hl, hc, rfl⟩ := splitLocation?_eq_some_iff.mp hlocation
    obtain ⟨rfl, hne, hno⟩ := splitCall?_eq_some_iff.mp hcall
    rw [hfile, String.toList_ofList]
    refine ⟨⟨String.ofList name, l, c, hmethod, by simp [hfile], ⟨by simpa using hname, ?_⟩,
      ⟨by simpa [hfile] using hne, ?_⟩, hl, hc⟩, hno⟩
    · rw [String.toList_ofList]
      exact fun h => hline (by simp [h])
    · rw [hfile, String.toList_ofList]
      exact fun h => hline (by simp [h])
  · rintro ⟨⟨name, l, c, hmethod, rfl, ⟨hname, hnameLine⟩, ⟨hfile, hfileLine⟩, hl, hc⟩, hno⟩
    refine ⟨_, name.toList ++ ' ' :: '(' :: frame.file.toList, name.toList, frame.file.toList, ?_,
      splitLocation?_eq_some_iff.mpr ⟨l, c, hl, hc, rfl⟩,
      splitCall?_eq_some_iff.mpr ⟨rfl, by simpa using hfile, hno⟩, by simpa using hname, ?_,
      by simpa using hmethod, by simp⟩
    · simp
    · simp [hnameLine, hfileLine]

/-- A text that is any named call is read as one. -/
theorem exists_readNamed?_iff :
    (∃ frame, readNamed? text = some frame) ↔ ∃ frame, IsNamedCall text frame := by
  constructor
  · rintro ⟨frame, h⟩
    exact ⟨frame, (readNamed?_eq_some_iff.mp h).1⟩
  · rintro ⟨frame, name, l, c, hmethod, rfl, ⟨hname, hnameLine⟩, ⟨hfile, hfileLine⟩, hl, hc⟩
    -- The parts may be cut otherwise than they were put together.
    have hopening : HasOpening (name.toList ++ ' ' :: '(' :: frame.file.toList) :=
      ⟨_, _, rfl, by simpa using hfile⟩
    obtain ⟨name', file', hcut⟩ := exists_splitCall?_iff.mpr hopening
    obtain ⟨hcall, -, hno⟩ := splitCall?_eq_some_iff.mp hcut
    refine ⟨⟨some (String.ofList name'), String.ofList file', frame.line, frame.column⟩,
      readNamed?_eq_some_iff_parts.mpr ⟨_, _, name', file', ?_,
        splitLocation?_eq_some_iff.mpr ⟨l, c, hl, hc, rfl⟩, hcut, ?_, ?_, rfl, rfl⟩⟩
    · simp
    · exact ne_nil_of_cut (by simpa using hname) hcall (by simpa using hfile) hno
    · simp [hnameLine, hfileLine]

/-! ### Anonymous calls -/

/-- A scheme ends at its colon. -/
theorem isSchemeChar_iff {c : Char} :
    isSchemeChar c = true ↔ c.isAlphanum = true ∨ c = '+' ∨ c = '.' ∨ c = '-' := by
  simp [isSchemeChar, or_assoc]

/-- A text that starts like a path has the root of one. -/
theorem hasRoot_of_startsAsPath (h : startsAsPath file = true) : HasRoot file := by
  unfold startsAsPath at h
  split at h
  next c rest => exact ⟨['/'], c :: rest, .slash, List.cons_ne_nil _ _, rfl⟩
  next letter c rest _ =>
    exact ⟨[letter, ':', '/'], c :: rest, .drive h (.inl rfl), List.cons_ne_nil _ _, rfl⟩
  next letter c rest _ =>
    exact ⟨[letter, ':', '\\'], c :: rest, .drive h (.inr rfl), List.cons_ne_nil _ _, rfl⟩
  next => cases h

/-- A text that starts like a URL has the root of one. -/
theorem hasRoot_of_startsAsUrl (h : startsAsUrl file = true) : HasRoot file := by
  unfold startsAsUrl at h
  split at h
  next => cases h
  next letter text =>
    obtain ⟨hletter, h⟩ := Bool.and_eq_true_iff.mp h
    split at h
    next c rest hdrop =>
      refine ⟨letter :: (text.takeWhile isSchemeChar ++ [':', '/', '/']), c :: rest,
        .scheme hletter fun d hd => ?_, List.cons_ne_nil _ _, ?_⟩
      · exact isSchemeChar_iff.mp (List.all_eq_true.mp List.all_takeWhile d hd)
      · have hsplit := List.takeWhile_append_dropWhile (p := isSchemeChar) (l := text)
        rw [hdrop] at hsplit
        simpa using hsplit.symm
    next => cases h

/-- A file starts as the file of an anonymous call if it goes on behind a root. -/
theorem startsAs_iff_hasRoot :
    (startsAsPath file || startsAsUrl file) = true ↔ HasRoot file := by
  rw [Bool.or_eq_true]
  constructor
  · rintro (h | h)
    · exact hasRoot_of_startsAsPath h
    · exact hasRoot_of_startsAsUrl h
  · rintro ⟨root, rest, hroot, hrest, rfl⟩
    obtain ⟨c, rest, rfl⟩ := List.exists_cons_of_ne_nil hrest
    cases hroot with
    | slash => exact .inl rfl
    | @drive letter _ hletter hseparator =>
      left
      have hslash : letter ≠ '/' := fun h => absurd (h ▸ hletter) (by decide)
      rcases hseparator with rfl | rfl <;> simp [startsAsPath, hletter]
    | @scheme _ name hletter hname =>
      right
      have hdrop : (name ++ ':' :: '/' :: '/' :: c :: rest).dropWhile isSchemeChar =
          ':' :: '/' :: '/' :: c :: rest :=
        Text.dropWhile_append_of_stop (fun d hd => isSchemeChar_iff.mpr (hname d hd))
          (fun d hd => by cases hd; rfl)
      simp [startsAsUrl, hletter, hdrop]

/-- A frame is read from a text as an anonymous call if the text is its anonymous call. -/
theorem readAnonymous?_eq_some_iff :
    readAnonymous? text = some frame ↔ IsAnonymousCall text frame := by
  unfold readAnonymous?
  constructor
  · intro h
    obtain ⟨⟨file, line, column⟩, hlocation, h⟩ := Option.bind_eq_some_iff.mp h
    obtain ⟨⟨hstart, hline⟩, h⟩ := Text.guard_bind_eq_some_iff.mp h
    cases h
    obtain ⟨l, c, hl, hc, rfl⟩ := splitLocation?_eq_some_iff.mp hlocation
    refine ⟨l, c, rfl, ?_, ⟨?_, ?_⟩, hl, hc⟩
    · rw [String.toList_ofList]
    · rw [String.toList_ofList]
      exact startsAs_iff_hasRoot.mp hstart
    · rw [String.toList_ofList]
      simpa using hline
  · rintro ⟨l, c, hmethod, rfl, ⟨hroot, hline⟩, hl, hc⟩
    refine Option.bind_eq_some_iff.mpr
      ⟨_, splitLocation?_eq_some_iff.mpr ⟨l, c, hl, hc, rfl⟩, ?_⟩
    refine Text.guard_bind_eq_some_iff.mpr
      ⟨⟨startsAs_iff_hasRoot.mpr hroot, by simpa using hline⟩, ?_⟩
    rw [String.ofList_toList, ← hmethod]
    rfl

/-! ### Lines -/

/-- A named call ends in a parenthesis. -/
theorem IsNamedCall.getLast?_eq (h : IsNamedCall text frame) : text.getLast? = some ')' := by
  obtain ⟨name, l, c, -, htext, -⟩ := h
  have hend : text =
      (name.toList ++ ' ' :: '(' :: (frame.file.toList ++ ':' :: (l ++ ':' :: c))) ++ [')'] := by
    simpa using htext
  rw [hend, List.getLast?_concat]

/-- An anonymous call ends in a digit. -/
theorem IsAnonymousCall.isDigit_getLast? (h : IsAnonymousCall text frame) :
    ∀ d ∈ text.getLast?, d.isDigit = true := by
  obtain ⟨l, c, -, htext, -, -, hc⟩ := h
  have hend : text = (frame.file.toList ++ ':' :: (l ++ [':'])) ++ c := by
    simpa using htext
  rw [hend, Text.getLast?_append_of_ne_nil hc.ne_nil]
  exact fun d hd => hc.isDigit d (List.mem_of_getLast? hd)

/-- No text has both shapes. -/
theorem not_isNamedCall_and_isAnonymousCall {other : Frame} :
    ¬ (IsNamedCall text frame ∧ IsAnonymousCall text other) := by
  rintro ⟨hnamed, hanonymous⟩
  exact absurd (hanonymous.isDigit_getLast? ')' hnamed.getLast?_eq) (by decide)

/-- What stands behind an `at` is told by it and the blanks after it. -/
theorem isBehindAt_iff {behind : List Char} : IsBehindAt text behind ↔ behind = dropAt text := by
  constructor
  · rintro (⟨blanks, rfl, hne, hblanks, hbehind⟩ | ⟨rfl, hno⟩)
    · obtain ⟨b, blanks, rfl⟩ := List.exists_cons_of_ne_nil hne
      show behind = if Unicode.isBlank b then (blanks ++ behind).dropWhile Unicode.isBlank else _
      rw [if_pos (hblanks b List.mem_cons_self), Text.dropWhile_append_of_stop
        (fun c hc => hblanks c (List.mem_cons_of_mem _ hc)) hbehind]
    · unfold dropAt
      split
      next c rest => rw [if_neg (by simp [hno c rest rfl])]
      next => rfl
  · rintro rfl
    unfold dropAt
    split
    next c rest =>
      split
      next hblank =>
        refine .inl ⟨c :: rest.takeWhile Unicode.isBlank, ?_, List.cons_ne_nil _ _, ?_, ?_⟩
        · simp [List.takeWhile_append_dropWhile]
        · intro d hd
          rcases List.mem_cons.mp hd with rfl | hd
          · exact hblank
          · exact List.all_eq_true.mp List.all_takeWhile d hd
        · exact fun d hd => Text.head?_dropWhile_eq_false hd
      next hblank =>
        refine .inr ⟨rfl, fun d rest' h => ?_⟩
        cases h
        simpa using hblank
    next hno => exact .inr ⟨rfl, fun c rest h => absurd h (hno c rest)⟩

/-- The part of a line that states the frame is told by what is left out. -/
theorem isCore_iff {line : List Char} : IsCore line text ↔ text = core line := by
  simp [IsCore, Text.isTrim_iff, isBehindAt_iff, core]

/-- A line states a frame in one of the shapes; of the cuts of a named call the last one counts. -/
theorem read?_eq_some_iff {line : String} :
    read? line = some frame ↔
      IsNamedCall (core line.toList) frame ∧ ¬ HasOpening frame.file.toList ∨
        IsAnonymousCall (core line.toList) frame := by
  unfold read?
  rw [Option.or_eq_some_iff, readNamed?_eq_some_iff, readAnonymous?_eq_some_iff]
  constructor
  · rintro (h | ⟨-, h⟩)
    · exact .inl h
    · exact .inr h
  · rintro (h | h)
    · exact .inl h
    · -- An anonymous call is met only after no named call has been.
      refine .inr ⟨Option.eq_none_iff_forall_ne_some.mpr fun other hother => ?_, h⟩
      exact not_isNamedCall_and_isAnonymousCall ⟨(readNamed?_eq_some_iff.mp hother).1, h⟩

/-- Exactly the lines of the grammar state a frame. No text has both shapes, a method name is there
in the one for named calls, and the text is put together from the parts of the frame. -/
theorem read_grammar_spec (line : String) :
    (∀ text, IsCore line.toList text ↔ text = core line.toList) ∧
    (∀ text frame other, ¬ (IsNamedCall text frame ∧ IsAnonymousCall text other)) ∧
    ((∃ frame, read? line = some frame) ↔
      (∃ frame, IsNamedCall (core line.toList) frame) ∨
        ∃ frame, IsAnonymousCall (core line.toList) frame) ∧
    ∀ frame, read? line = some frame →
      (IsNamedCall (core line.toList) frame ∨ IsAnonymousCall (core line.toList) frame) ∧
      ((∃ name, frame.methodName = some name) ↔ ∃ other, IsNamedCall (core line.toList) other) := by
  refine ⟨fun _ => isCore_iff, fun _ _ _ => not_isNamedCall_and_isAnonymousCall, ?_,
    fun frame hread => ?_⟩
  · simp only [read?_eq_some_iff, ← readNamed?_eq_some_iff, exists_or, exists_readNamed?_iff]
  · rcases read?_eq_some_iff.mp hread with ⟨hnamed, -⟩ | hanonymous
    · obtain ⟨name, -, -, hname, -⟩ := id hnamed
      exact ⟨.inl hnamed, fun _ => ⟨frame, hnamed⟩, fun _ => ⟨name, hname⟩⟩
    · refine ⟨.inr hanonymous, ?_, ?_⟩
      · rintro ⟨name, hname⟩
        obtain ⟨-, -, hnone, -⟩ := hanonymous
        rw [hnone] at hname
        cases hname
      · rintro ⟨other, hnamed⟩
        exact absurd ⟨hnamed, hanonymous⟩ not_isNamedCall_and_isAnonymousCall

/-- Of two parentheses the second begins the file. -/
theorem read_grammar_spec_two_parentheses :
    read? "\tat a (b (/c.js:10:2)\n" = some ⟨some "a (b", "/c.js", 10, 2⟩ ∧
    IsNamedCall "a (b (/c.js:10:2)".toList ⟨some "a (b", "/c.js", 10, 2⟩ := by
  have hread : read? "\tat a (b (/c.js:10:2)\n" = some ⟨some "a (b", "/c.js", 10, 2⟩ := by
    decide +kernel
  have hcore : core "\tat a (b (/c.js:10:2)\n".toList = "a (b (/c.js:10:2)".toList := by
    decide +kernel
  refine ⟨hread, ?_⟩
  obtain ⟨-, -, -, hparts⟩ := read_grammar_spec "\tat a (b (/c.js:10:2)\n"
  rw [← hcore]
  rcases (hparts _ hread).1 with hnamed | ⟨-, -, hnone, -⟩
  · exact hnamed
  · cases hnone

end Retrace.Frame
