import Retrace.Pattern.Read
import Retrace.Proofs.Directive
import Retrace.Proofs.Pattern.Stages

/-!
# Directives by patterns

The deciding directive can be searched for with two patterns, one after the other, which read the
whole text and capture a word behind their leftmost match (`search?`). Such a match begins where a
line does and is read in stages: `passes_markParts` and `passes_dataParts` say that these are the
steps by which `behindMark?` and `payload?` read a line. None of the steps takes a line feed, so
that what is read where a line begins is what is read in this line, and the leftmost match is in the
first line that has one (`captureFrom?_eq`). So both ways lead to the same reference
(`find?_spec`).
-/

namespace Retrace.Directive

open Pattern

/-! ### The search for patterns -/

/-- The pattern of a directive up to its reference. -/
def externalHead : String := "(?m)^[ \\t]*//[#@][ \\t]*sourceMappingURL="

/-- The pattern of a directive that holds a map, up to the payload. -/
def inlineHead : String :=
  externalHead ++ "data:application/json(?:;charset=[^;,\\s]+)?;base64,"

/-- The word behind the leftmost match of a pattern that has one there. -/
def captured? (head : String) (text : List Char) : Option (List Char) := do
  let whole ← Pattern.read? (head ++ "(\\S+)")
  let head ← Pattern.read? head
  whole.captureFrom? head none text

/-- What the deciding directive of a text refers to, when the whole text is searched with patterns,
first for a payload and then for any reference. -/
def search? (text : String) : Option MapReference :=
  ((captured? inlineHead text.toList).map fun payload => .inline (String.ofList payload)).or
    ((captured? externalHead text.toList).map fun r => .external (String.ofList r))

/-! ### What the patterns stand for -/

/-- The spaces and tabs. -/
def gap : CharSet := .union (.union .none (.single ' ')) (.single '\t')

/-- The marks behind the slashes. -/
def mark : CharSet := .union (.union .none (.single '#')) (.single '@')

/-- The characters that a name of a character set may have. -/
def nameChars : CharSet :=
  .compl (.union (.union (.union .none (.single ';')) (.single ',')) .blank)

/-- The parts of a directive from its second slash to the equals sign, with more behind them. -/
def markParts (more : List Expr) : List Expr :=
  .char '/' :: .set mark :: .star (.set gap) true ::
    ("sourceMappingURL=".toList.map .char ++ more)

/-- A character set with its name. -/
def charset : Expr := .ofList (";charset=".toList.map .char ++ [.plus (.set nameChars) true])

/-- The parts of a reference that holds a map, up to its payload, with more behind them. -/
def dataParts (more : List Expr) : List Expr :=
  "data:application/json".toList.map .char ++
    .upTo charset 1 true :: (";base64,".toList.map .char ++ more)

/-- A word. -/
def word : Expr := .plus (.set (.compl .blank)) true

/-- A directive that begins its line, with parts behind its first slash. -/
def directive (parts : List Expr) : Expr :=
  .ofList (.empty :: .look .lineStart :: .star (.set gap) true :: .char '/' :: parts)

/-- The pattern of a directive is read. -/
theorem read?_externalHead :
    Pattern.read? externalHead = some (directive (markParts [])) := by
  decide +kernel

/-- The pattern of a directive with its reference is read. -/
theorem read?_external :
    Pattern.read? (externalHead ++ "(\\S+)") = some (directive (markParts [word])) := by
  decide +kernel

/-- The pattern of a directive that holds a map is read. -/
theorem read?_inlineHead :
    Pattern.read? inlineHead = some (directive (markParts (dataParts []))) := by
  decide +kernel

/-- The pattern of a directive that holds a map, with its payload, is read. -/
theorem read?_inline :
    Pattern.read? (inlineHead ++ "(\\S+)") = some (directive (markParts (dataParts [word]))) := by
  decide +kernel

variable {c : Char} {line text rest more : List Char}

/-! ### Stages -/

/-- The gaps are told by their set. -/
theorem contains_gap : gap.contains = isGap := by
  funext c
  simp [gap, CharSet.contains, contains_single, isGap, eq_comm, Bool.beq_eq_decide_eq]

/-- A mark is told by its set. -/
theorem contains_mark : mark.contains c = decide (c = '#' ∨ c = '@') := by
  simp [mark, CharSet.contains, contains_single, eq_comm, Bool.beq_eq_decide_eq]

/-- The characters of a name are told by their set. -/
theorem contains_nameChars : nameChars.contains = isNameChar := by
  funext c
  simp [nameChars, CharSet.contains, contains_single, isNameChar, eq_comm, Bool.beq_eq_decide_eq]

/-- A word is a run of characters that are no blanks. -/
theorem run?_eq_word? : run? (.compl .blank) = word? := rfl

/-- A piece is taken off as by a literal. -/
theorem behindPiece?_toList (piece : String) : behindPiece? piece.toList = behind? piece := by
  funext text
  rw [behindPiece?, behind?, String.length_toList]

/-- Behind the slashes a mark and the name are read. -/
theorem behindMark?_eq (line : List Char) :
    behindMark? line = (behind? "//" (line.dropWhile isGap)).bind fun text =>
      (behindSet? mark text).bind fun text =>
        behind? "sourceMappingURL=" (text.dropWhile isGap) := by
  unfold behindMark?
  refine Option.bind_congr fun text _ => ?_
  cases text with
  | nil => rfl
  | cons c rest =>
    change (guard (c = '#' ∨ c = '@') : Option Unit).bind _ = _
    by_cases hc : c = '#' ∨ c = '@'
    · have hset : behindSet? mark (c :: rest) = some rest := by simp [behindSet?, contains_mark, hc]
      rw [guard, if_pos hc, hset]
      rfl
    · have hset : behindSet? mark (c :: rest) = none := by simp [behindSet?, contains_mark, hc]
      rw [guard, if_neg hc, hset]
      rfl

/-- A directive is read up to the equals sign. -/
theorem passes_markParts (more : List Expr) :
    Passes [wayOf (.star (.set gap) true :: .char '/' :: markParts more) []] [wayOf more []]
      behindMark? := by
  -- Neither what follows the indentation nor what follows the mark belongs to a gap.
  have hletter : gap.contains 's' = false := by decide
  have hslash : gap.contains '/' = false := by decide
  have hname := (passes_star ("sourceMappingURL=".toList.map .char ++ more) [] rfl
    (contains_single_eq_false hletter)).trans (passes_literal "sourceMappingURL=".toList more [])
  have hmark := (passes_star (.char '/' :: markParts more) [] rfl
    (contains_single_eq_false hslash)).trans
      ((passes_literal ['/', '/'] _ []).trans ((passes_set mark _ []).trans hname))
  have hread : (fun text => (some (text.dropWhile gap.contains)).bind fun text =>
      (behindPiece? ['/', '/'] text).bind fun text => (behindSet? mark text).bind fun text =>
        (some (text.dropWhile gap.contains)).bind (behindPiece? "sourceMappingURL=".toList)) =
      behindMark? := by
    have hpiece : behindPiece? ['/', '/'] = behind? "//" := behindPiece?_toList "//"
    funext text
    rw [behindMark?_eq]
    simp only [contains_gap, hpiece, behindPiece?_toList, Option.bind_some]
  exact hread ▸ hmark

/-- A character set is read when it has a name, and left out otherwise. -/
theorem dropCharset_eq_getD (text : List Char) : dropCharset text =
    ((behind? ";charset=" text).bind (behindRun? nameChars)).getD text := by
  rw [dropCharset_eq]
  cases behind? ";charset=" text with
  | none => rfl
  | some rest =>
    simp only [Option.bind_some, behindRun?, contains_nameChars]
    split <;> rfl

/-- A piece is taken off part by part. -/
theorem behind?_append (piece piece' : String) :
    behind? (piece ++ piece') text = (behind? piece text).bind (behind? piece') := by
  ext rest
  simp [behind?_eq_some_iff, Option.bind_eq_some_iff]

/-- A character set is left out in front of a semicolon that does not begin one. -/
theorem passes_charset (more : List Expr) {parts : List Expr}
    (hmore : more = .char ';' :: .char 'b' :: parts) :
    Passes [wayOf (.upTo charset 1 true :: more) []] [wayOf more []]
      fun text => some (dropCharset text) := by
  subst hmore
  have hparts : charset = .ofList (.char ';' :: .char 'c' ::
      ("harset=".toList.map .char ++ [.plus (.set nameChars) true])) := rfl
  have hsemicolon : nameChars.contains ';' = false := by decide
  have hname := (passes_literal "harset=".toList [.plus (.set nameChars) true] _).trans
    (passes_plus_upTo nameChars (.single ';') charset (.char 'b' :: parts) []
      (contains_single_eq_false hsemicolon))
  -- The letter behind the semicolon tells the two apart, and the rest of the piece comes after it.
  have hread : (fun text => some (((behindPiece? [';', 'c'] text).bind fun text =>
      (behindPiece? "harset=".toList text).bind (behindRun? nameChars)).getD text)) =
      fun text => some (dropCharset text) := by
    have hpiece : behindPiece? [';', 'c'] = behind? ";c" := behindPiece?_toList ";c"
    have hsplit : ";charset=" = ";c" ++ "harset=" := by decide
    funext text
    rw [dropCharset_eq_getD, hpiece, behindPiece?_toList, hsplit, behind?_append, Option.bind_assoc]
  exact hread ▸ passes_optional hparts (by decide) hname

/-- A reference that holds a map is read up to its payload. -/
theorem passes_dataParts (more : List Expr) :
    Passes [wayOf (dataParts more) []] [wayOf more []] fun text =>
      (behind? "data:application/json" text).bind fun text =>
        behind? ";base64," (dropCharset text) := by
  have hbase := (passes_charset (";base64,".toList.map .char ++ more) rfl).trans
    (passes_literal ";base64,".toList more [])
  have hdata := (passes_literal "data:application/json".toList _ []).trans hbase
  simp only [behindPiece?_toList, Option.bind_some] at hdata
  exact hdata

/-! ### Ends of lines -/

/-- A piece without a line feed is not taken off across the end of a line. -/
theorem behind?_append_newline {piece : String} (hpiece : '\n' ∉ piece.toList) :
    behind? piece (line ++ '\n' :: more) = (behind? piece line).map (· ++ '\n' :: more) := by
  ext rest
  rw [behind?_eq_some_iff, Option.map_eq_some_iff]
  simp only [behind?_eq_some_iff]
  constructor
  · intro h
    obtain ⟨tail, hline, hrest⟩ | ⟨tail, rfl, hrest⟩ := List.append_eq_append_iff.mp h
    · cases tail with
      | nil => exact ⟨[], by simpa using hline.symm, hrest⟩
      | cons c tail =>
        -- The piece would go on behind the end of the line.
        cases hrest
        simp [hline] at hpiece
    · exact ⟨tail, rfl, hrest.symm⟩
  · rintro ⟨tail, rfl, rfl⟩
    rw [List.append_assoc]

/-- Characters other than a line feed are dropped up to the end of the line at most. -/
theorem dropWhile_append_newline {p : Char → Bool} (h : p '\n' = false) :
    (line ++ '\n' :: more).dropWhile p = line.dropWhile p ++ '\n' :: more := by
  induction line with
  | nil => simp [h]
  | cons c line ih => cases hc : p c <;> simp [hc, ih]

/-- Characters other than a line feed are taken up to the end of the line at most. -/
theorem takeWhile_append_newline {p : Char → Bool} (h : p '\n' = false) :
    (line ++ '\n' :: more).takeWhile p = line.takeWhile p := by
  induction line with
  | nil => simp [h]
  | cons c line ih => cases hc : p c <;> simp [hc, ih]

/-- A character other than a line feed is taken off in its line. -/
theorem behindSet?_append_newline {s : CharSet} (h : s.contains '\n' = false) :
    behindSet? s (line ++ '\n' :: more) = (behindSet? s line).map (· ++ '\n' :: more) := by
  cases line with
  | nil => simp [behindSet?, h]
  | cons c line => cases hc : s.contains c <;> simp [behindSet?, hc]

/-- A word ends with its line. -/
theorem word?_append_newline : word? (line ++ '\n' :: more) = word? line := by
  rw [word?, word?, takeWhile_append_newline (by decide)]

/-- A directive is read up to the equals sign in its line. -/
theorem behindMark?_append_newline :
    behindMark? (line ++ '\n' :: more) = (behindMark? line).map (· ++ '\n' :: more) := by
  rw [behindMark?_eq, behindMark?_eq, dropWhile_append_newline (by decide),
    behind?_append_newline (by decide)]
  cases behind? "//" (line.dropWhile isGap) with
  | none => rfl
  | some rest =>
    rw [Option.map_some, Option.bind_some, Option.bind_some, behindSet?_append_newline (by decide)]
    cases behindSet? mark rest with
    | none => rfl
    | some rest =>
      rw [Option.map_some, Option.bind_some, Option.bind_some,
        dropWhile_append_newline (by decide), behind?_append_newline (by decide)]

/-- A character set is left out in its line. -/
theorem dropCharset_append_newline :
    dropCharset (line ++ '\n' :: more) = dropCharset line ++ '\n' :: more := by
  rw [dropCharset_eq, dropCharset_eq, behind?_append_newline (by decide)]
  cases behind? ";charset=" line with
  | none => rfl
  | some rest =>
    simp only [Option.map_some, takeWhile_append_newline (p := isNameChar) (by decide),
      dropWhile_append_newline (p := isNameChar) (by decide)]
    split <;> rfl

/-- A reference is read in its line. -/
theorem reference?_append_newline : reference? (line ++ '\n' :: more) = reference? line := by
  rw [reference?, reference?, behindMark?_append_newline]
  cases behindMark? line with
  | none => rfl
  | some rest => exact word?_append_newline

/-- A payload is read in its line. -/
theorem payload?_append_newline : payload? (line ++ '\n' :: more) = payload? line := by
  unfold payload?
  rw [behindMark?_append_newline]
  cases behindMark? line with
  | none => rfl
  | some rest =>
    simp only [Option.map_some, Option.bind_eq_bind, Option.bind_some]
    rw [behind?_append_newline (by decide)]
    cases behind? "data:application/json" rest with
    | none => rfl
    | some rest =>
      simp only [Option.map_some, Option.bind_some, dropCharset_append_newline]
      rw [behind?_append_newline (by decide)]
      cases behind? ";base64," (dropCharset rest) with
      | none => rfl
      | some rest => exact word?_append_newline

/-! ### The leftmost match -/

section Leftmost

/-- Does a line begin behind this character, or the text? -/
def beginsLine (before : Option Char) : Bool := before.isNone || before == some '\n'

variable {whole head : Expr} {read? : List Char → Option (List Char)}
  (hline : ∀ line more, read? (line ++ '\n' :: more) = read? line)

include hline

/-- What is read at the front of a text is read in its first line. -/
theorem read?_eq_of_splitOn {lines : List (List Char)} (h : text.splitOn '\n' = line :: lines) :
    read? text = read? line := by
  have hjoin : ['\n'].intercalate (text.splitOn '\n') = text := List.intercalate_splitOn '\n'
  rw [h] at hjoin
  cases lines with
  | nil => rw [← hjoin, List.intercalate_singleton]
  | cons next lines =>
    rw [← hjoin, List.intercalate_cons_cons, List.append_assoc]
    exact hline line _

/-- A match that begins where a line does, and is read in this line, is searched for line by line.
Where the search begins within a line, the rest of this line is passed over. -/
theorem captureFrom?_eq (hat : ∀ before text, whole.captureAt? head before text =
      if beginsLine before then read? text else none) (before : Option Char) (text : List Char) :
    whole.captureFrom? head before text = if beginsLine before
      then (text.splitOn '\n').findSome? read? else (text.splitOn '\n').tail.findSome? read? := by
  induction text generalizing before with
  | nil =>
    rw [Expr.captureFrom?, hat]
    cases beginsLine before <;> simp
  | cons c text ih =>
    rw [Expr.captureFrom?, hat, ih]
    obtain rfl | hc := eq_or_ne c '\n'
    · -- The line ends here, and another one begins.
      have hsplit : ('\n' :: text).splitOn '\n' = [] :: text.splitOn '\n' :=
        Text.splitOn_append_cons '\n' [] text
      rw [read?_eq_of_splitOn hline hsplit, hsplit, List.findSome?_cons, List.tail_cons]
      cases beginsLine before with
      | true => cases read? [] <;> simp [beginsLine]
      | false => simp [beginsLine]
    · -- The line goes on, and no match begins in it.
      obtain ⟨line, lines, hlines⟩ := List.exists_cons_of_ne_nil (List.splitOn_ne_nil '\n' text)
      have hsplit : (c :: text).splitOn '\n' = (c :: line) :: lines := by
        rw [List.splitOn_eq_splitOnP] at hlines ⊢
        rw [List.splitOnP_cons_eq_if_modifyHead, hlines, if_neg (by simpa using hc),
          List.modifyHead_cons]
      have hwithin : beginsLine (some c) = false := by simp [beginsLine, hc]
      rw [read?_eq_of_splitOn hline hsplit, hsplit, hlines, hwithin]
      cases beginsLine before with
      | true => cases hread : read? (c :: line) <;> simp [hread]
      | false => simp

end Leftmost

/-- The leftmost reference is that of the first line with one. -/
theorem captured?_externalHead (text : List Char) :
    captured? externalHead text = (text.splitOn '\n').findSome? reference? := by
  rw [captured?, read?_external, read?_externalHead]
  exact captureFrom?_eq (fun _ _ => reference?_append_newline)
    (fun _ _ => captureAt?_eq passes_markParts) none text

/-- The leftmost payload is that of the first line with one. -/
theorem captured?_inlineHead (text : List Char) :
    captured? inlineHead text = (text.splitOn '\n').findSome? payload? := by
  rw [captured?, read?_inline, read?_inlineHead]
  have hparts (more : List Expr) :
      Passes [wayOf (.star (.set gap) true :: .char '/' :: markParts (dataParts more)) []]
        [wayOf more []] fun text => (behindMark? text).bind fun text =>
          (behind? "data:application/json" text).bind fun text =>
            behind? ";base64," (dropCharset text) :=
    (passes_markParts (dataParts more)).trans (passes_dataParts more)
  have hpayload : payload? = fun text => ((behindMark? text).bind fun text =>
      (behind? "data:application/json" text).bind fun text =>
        behind? ";base64," (dropCharset text)).bind (run? (.compl .blank)) := by
    funext text
    simp only [payload?, Option.bind_eq_bind, Option.bind_assoc, run?_eq_word?]
  refine captureFrom?_eq (fun _ _ => payload?_append_newline) (fun before text => ?_) none text
  rw [hpayload]
  exact captureAt?_eq hparts

/-- Searching the whole text with patterns finds what reading it line by line does. -/
theorem search?_eq_find? (text : String) : search? text = find? text := by
  unfold search? find?
  rw [captured?_externalHead, captured?_inlineHead]
  dsimp only
  cases (text.toList.splitOn '\n').findSome? payload? <;> rfl

/-- The first line that holds a map decides with its payload, whatever stands before it, and without
any the first directive does with its reference. Searching the whole text with the two patterns
leads to the same. -/
theorem find?_spec (text : String) :
    (∀ payload : String,
      find? text = some (.inline payload) ↔ IsFirst IsPayload text.toList payload.toList) ∧
    (∀ reference : String,
      find? text = some (.external reference) ↔ IsExternal text.toList reference.toList) ∧
    (find? text = none ↔ HasNone text.toList) ∧
    search? text = find? text :=
  ⟨fun _ => find?_eq_inline_iff, fun _ => find?_eq_external_iff, find?_eq_none_iff,
    search?_eq_find? text⟩

end Retrace.Directive
