import Retrace.Proofs.Text
import Retrace.SourceMap.Mappings

/-!
# Where segments stand

A segment of a mappings text is told here by its place alone: it begins at the start of the text or
behind a separator, it reaches up to the next separator, and the line that it stands on is the
number of semicolons before it. `segments_eq` shows that splitting the text into lines and the lines
into segments, as the reader does, meets these segments in this order and with these lines.

The proof follows a place through the text. A word without separators begins one segment
(`begunIn_word`), a separator begins none (`begunIn_separator`), and so a line has the segments of
its words (`begunIn_line`) and a text those of its lines (`begunIn_lines`).
-/

namespace Retrace.Mappings

/-- A segment of a mappings text. -/
structure Segment where
  /-- The number of semicolons before it. -/
  line : Nat
  /-- Its characters. -/
  text : List Char
  deriving Repr, DecidableEq

/-- Does a character part segments? -/
def isSeparator (c : Char) : Bool := c == ',' || c == ';'

/-- Does a segment begin at a place of a text? One does at the start or behind a separator, unless
the text ends there or goes on with another separator. -/
def beginsAt (text : List Char) (place : Nat) : Bool :=
  (text.take place).getLast?.all isSeparator && (text.drop place).head?.any (!isSeparator ·)

/-- The segment that begins at a place of a text. -/
def segmentAt? (text : List Char) (place : Nat) : Option Segment :=
  if beginsAt text place then
    some ⟨(text.take place).count ';', (text.drop place).takeWhile (!isSeparator ·)⟩
  else none

/-- The segments of a text, in their order. -/
def segments (text : List Char) : List Segment :=
  (List.range text.length).filterMap (segmentAt? text)

/-- The segments of a text that begin at one of `length` places from `start` on. -/
def begunIn (text : List Char) (start length : Nat) : List Segment :=
  (List.range' start length).filterMap (segmentAt? text)

/-- The segments of lines of which the first has the number `index`. -/
def placed (index : Nat) : List (List Char) → List Segment
  | [] => []
  | line :: lines => (segmentsOf line).map (⟨index, ·⟩) ++ placed (index + 1) lines

/-- A segment of a text is not empty. -/
theorem text_ne_nil_of_mem {text : List Char} {s : Segment} (h : s ∈ segments text) :
    s.text ≠ [] := by
  obtain ⟨place, -, hplace⟩ := List.mem_filterMap.mp h
  unfold segmentAt? at hplace
  split at hplace
  next hbegins =>
    cases hplace
    obtain ⟨-, hfirst⟩ := Bool.and_eq_true_iff.mp hbegins
    -- It begins with a character that is no separator.
    cases hrest : text.drop place with
    | nil => simp [hrest] at hfirst
    | cons c rest =>
      have hc : (!isSeparator c) = true := by simpa [hrest] using hfirst
      rw [List.takeWhile_cons, if_pos hc]
      exact List.cons_ne_nil _ _
  next => cases hplace

/-- Places may be passed in two parts. -/
theorem begunIn_add (text : List Char) (start m n : Nat) :
    begunIn text start (m + n) = begunIn text start m ++ begunIn text (start + m) n := by
  unfold begunIn
  rw [← List.range'_append_1, List.filterMap_append]

/-- Behind a character that is no separator no segment begins. -/
theorem segmentAt?_succ_eq_none {text : List Char} {place : Nat} {c : Char}
    (hc : text[place]? = some c) (hsep : isSeparator c = false) :
    segmentAt? text (place + 1) = none := by
  have hlast : (text.take (place + 1)).getLast? = some c := by
    rw [List.take_add_one, hc, Option.toList_some, List.getLast?_concat]
  simp [segmentAt?, beginsAt, hlast, hsep]

/-- A word without separators, behind a separator and before one, is a segment unless it is
empty. -/
theorem begunIn_word (before word after : List Char) (hword : ∀ c ∈ word, isSeparator c = false)
    (hbefore : before.getLast?.all isSeparator = true)
    (hafter : after.head?.all isSeparator = true) :
    begunIn (before ++ (word ++ after)) before.length word.length =
      ([word].filter (!·.isEmpty)).map (⟨before.count ';', ·⟩) := by
  cases word with
  | nil => rfl
  | cons c cs =>
    have hspan : ((c :: cs) ++ after).takeWhile (!isSeparator ·) = c :: cs := by
      rw [List.takeWhile_append_of_pos (by simpa using hword)]
      cases after with
      | nil => simp
      | cons d ds =>
        have hd : isSeparator d = true := by simpa using hafter
        simp [hd]
    -- A segment begins with the word, and at none of its later places.
    have hfirst : segmentAt? (before ++ ((c :: cs) ++ after)) before.length =
        some ⟨before.count ';', c :: cs⟩ := by
      simp only [segmentAt?, beginsAt, List.take_left, List.drop_left, hbefore, hspan]
      simp [hword c (by simp)]
    have hrest : (List.range' (before.length + 1) cs.length).filterMap
        (segmentAt? (before ++ ((c :: cs) ++ after))) = [] := by
      rw [List.filterMap_eq_nil_iff]
      intro place hplace
      obtain ⟨i, hi, rfl⟩ := List.mem_range'.mp hplace
      have hbound : i < (c :: cs).length := by rw [List.length_cons]; omega
      rw [show before.length + 1 + 1 * i = before.length + i + 1 by omega]
      apply segmentAt?_succ_eq_none (c := (c :: cs)[i])
      · rw [List.getElem?_append_right (by omega), Nat.add_sub_cancel_left,
          List.getElem?_append_left (by simp; omega)]
        exact List.getElem?_eq_getElem _
      · exact hword _ (List.getElem_mem _)
    unfold begunIn
    rw [List.length_cons, List.range'_succ, List.filterMap_cons, hfirst]
    simp only [hrest]
    rfl

/-- No segment begins at a separator. -/
theorem begunIn_separator (before : List Char) {c : Char} (after : List Char)
    (hc : isSeparator c = true) : begunIn (before ++ c :: after) before.length 1 = [] := by
  simp [begunIn, segmentAt?, beginsAt, hc]

/-- The places of a piece, of the separator behind it and of what follows. -/
theorem begunIn_piece (before piece : List Char) {c : Char} (after : List Char) (length : Nat)
    (hc : isSeparator c = true) :
    begunIn (before ++ (piece ++ c :: after)) before.length (piece.length + (1 + length)) =
      begunIn (before ++ (piece ++ c :: after)) before.length piece.length ++
        begunIn (before ++ piece ++ [c] ++ after) (before ++ piece ++ [c]).length length := by
  have hseparator := begunIn_separator (before ++ piece) after hc
  rw [begunIn_add, begunIn_add]
  simp only [List.append_assoc, List.length_append, List.length_singleton,
    List.singleton_append] at hseparator ⊢
  rw [hseparator, List.nil_append, Nat.add_assoc]

/-- Words with commas between them: each is a segment unless it is empty, on the line that they
begin on. -/
theorem begunIn_words (words : List (List Char)) :
    ∀ before after : List Char, (∀ word ∈ words, ∀ c ∈ word, isSeparator c = false) →
      before.getLast?.all isSeparator = true → after.head?.all isSeparator = true →
      begunIn (before ++ ([','].intercalate words ++ after)) before.length
          ([','].intercalate words).length =
        (words.filter (!·.isEmpty)).map (⟨before.count ';', ·⟩) := by
  induction words with
  | nil => intros; rfl
  | cons word words ih =>
    intro before after hwords hbefore hafter
    have hword := hwords word (by simp)
    cases words with
    | nil => simpa using begunIn_word before word after hword hbefore hafter
    | cons next words =>
      -- The other words stand behind this one and a comma, on the same line.
      have hrest := ih (before ++ word ++ [',']) after
        (fun w hw => hwords w (List.mem_cons_of_mem _ hw)) (by simp [isSeparator]) hafter
      have hcount : (before ++ word ++ [',']).count ';' = before.count ';' := by
        have hnone : word.count ';' = 0 :=
          List.count_eq_zero.mpr fun h => by simpa [isSeparator] using hword _ h
        simp [List.count_append, hnone]
      have hlength : ([','].intercalate (word :: next :: words)).length =
          word.length + (1 + ([','].intercalate (next :: words)).length) := by
        simp [List.intercalate_cons_cons]; omega
      have htext : [','].intercalate (word :: next :: words) ++ after =
          word ++ ',' :: ([','].intercalate (next :: words) ++ after) := by
        simp [List.intercalate_cons_cons]
      rw [hlength, htext, begunIn_piece _ _ _ _ (by rfl),
        begunIn_word _ _ _ hword hbefore (by rfl), hrest, hcount, ← List.map_append,
        ← List.filter_append]
      rfl

/-- A line, behind a separator and before a semicolon or the end, has the segments that it is split
into. -/
theorem begunIn_line (before line after : List Char) (hline : ';' ∉ line)
    (hbefore : before.getLast?.all isSeparator = true)
    (hafter : after.head?.all isSeparator = true) :
    begunIn (before ++ (line ++ after)) before.length line.length =
      (segmentsOf line).map (⟨before.count ';', ·⟩) := by
  -- Splitting leaves no comma in a word, and a line has no semicolon.
  have hwords : ∀ word ∈ line.splitOn ',', ∀ c ∈ word, isSeparator c = false := by
    intro word hword c hc
    obtain ⟨hmem, hcomma⟩ := Text.mem_of_mem_splitOn hword hc
    have hsemicolon : c ≠ ';' := fun h => hline (h ▸ hmem)
    simp [isSeparator, hcomma, hsemicolon]
  have h := begunIn_words (line.splitOn ',') before after hwords hbefore hafter
  rwa [List.intercalate_splitOn] at h

/-- Lines with semicolons between them have the segments of each, numbered on. -/
theorem begunIn_lines (lines : List (List Char)) :
    ∀ before : List Char, (∀ line ∈ lines, ';' ∉ line) →
      before.getLast?.all isSeparator = true →
      begunIn (before ++ [';'].intercalate lines) before.length ([';'].intercalate lines).length =
        placed (before.count ';') lines := by
  induction lines with
  | nil => intros; rfl
  | cons line lines ih =>
    intro before hlines hbefore
    have hline := hlines line (by simp)
    cases lines with
    | nil =>
      simpa [placed] using begunIn_line before line [] hline hbefore rfl
    | cons next lines =>
      -- The other lines stand behind this one and a semicolon, which counts.
      have hrest := ih (before ++ line ++ [';'])
        (fun l hl => hlines l (List.mem_cons_of_mem _ hl)) (by simp [isSeparator])
      have hcount : (before ++ line ++ [';']).count ';' = before.count ';' + 1 := by
        simp [List.count_append, List.count_eq_zero.mpr hline]
      have hlength : ([';'].intercalate (line :: next :: lines)).length =
          line.length + (1 + ([';'].intercalate (next :: lines)).length) := by
        simp [List.intercalate_cons_cons]; omega
      have htext : [';'].intercalate (line :: next :: lines) =
          line ++ ';' :: [';'].intercalate (next :: lines) := by
        simp [List.intercalate_cons_cons]
      rw [hlength, htext, begunIn_piece _ _ _ _ (by rfl),
        begunIn_line _ _ _ hline hbefore (by rfl), hrest, hcount]
      rfl

/-- Splitting a text into lines and these into segments meets its segments in their order, each on
the line whose number is that of the semicolons before it. -/
theorem segments_eq (text : List Char) : segments text = placed 0 (text.splitOn ';') := by
  have h := begunIn_lines (text.splitOn ';') []
    (fun line hline hmem => (Text.mem_of_mem_splitOn hline hmem).2 rfl) rfl
  rw [List.intercalate_splitOn] at h
  simpa [begunIn, segments, List.range_eq_range'] using h

end Retrace.Mappings
