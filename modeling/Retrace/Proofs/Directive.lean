import Retrace.Directive
import Retrace.Proofs.Text

/-!
# Directives

A directive is told by how its line is put together, and so is the reference that it holds:
`reference?_eq_some_iff` and `payload?_eq_some_iff` say that the readers of a line find just these.
What decides of a text is the first line with a payload or, without any, the first with a reference
(`find?_eq_inline_iff`, `find?_eq_external_iff`, `find?_eq_none_iff`).
-/

namespace Retrace.Directive

/-- A line starts as a directive and has a text behind the equals sign. -/
def IsMarked (line behind : List Char) : Prop :=
  ∃ (indent gap : List Char) (mark : Char),
    line = indent ++ "//".toList ++ mark :: (gap ++ "sourceMappingURL=".toList ++ behind) ∧
    (∀ c ∈ indent, c = ' ' ∨ c = '\t') ∧ (mark = '#' ∨ mark = '@') ∧ ∀ c ∈ gap, c = ' ' ∨ c = '\t'

/-- A text begins with a word, which goes on to the next blank or to the end. -/
structure IsWord (text word : List Char) : Prop where
  /-- The word is not empty. -/
  ne_nil : word ≠ []
  /-- The word has no blank. -/
  isBlank_eq_false : ∀ c ∈ word, Unicode.isBlank c = false
  /-- The word stops at a blank or at the end. -/
  stop : ∃ rest, text = word ++ rest ∧ ∀ c ∈ rest.head?, Unicode.isBlank c = true

/-- A line is a directive with a reference. -/
def IsReference (line reference : List Char) : Prop :=
  ∃ behind, IsMarked line behind ∧ IsWord behind reference

/-- A text names a character set, or is empty. -/
def IsCharset (text : List Char) : Prop :=
  text = [] ∨ ∃ name, text = ";charset=".toList ++ name ∧ name ≠ [] ∧
    ∀ c ∈ name, c ≠ ';' ∧ c ≠ ',' ∧ Unicode.isBlank c = false

/-- A line is a directive that holds a map, with its payload. -/
def IsPayload (line payload : List Char) : Prop :=
  ∃ charset behind, IsCharset charset ∧ IsWord behind payload ∧
    IsMarked line ("data:application/json".toList ++ charset ++ ";base64,".toList ++ behind)

/-- Something is found at the first line of a text at which it can be found. -/
def IsFirst (found? : List Char → List Char → Prop) (text found : List Char) : Prop :=
  ∃ before line after, text.splitOn '\n' = before ++ line :: after ∧ found? line found ∧
    ∀ earlier ∈ before, ∀ other, ¬ found? earlier other

/-- No directive of a text holds a map, and the first one refers to it elsewhere. -/
def IsExternal (text reference : List Char) : Prop :=
  (∀ line ∈ text.splitOn '\n', ∀ payload, ¬ IsPayload line payload) ∧
    IsFirst IsReference text reference

/-- No line of a text is a directive. -/
def HasNone (text : List Char) : Prop :=
  ∀ line ∈ text.splitOn '\n', ∀ reference, ¬ IsReference line reference

variable {line text rest behind reference payload : List Char}

/-! ### Parts of a line -/

/-- A space or a tab. -/
theorem isGap_iff {c : Char} : isGap c = true ↔ c = ' ' ∨ c = '\t' := by
  simp [isGap]

/-- A piece is taken off the front. -/
theorem behind?_eq_some_iff {piece : String} :
    behind? piece text = some rest ↔ text = piece.toList ++ rest := by
  unfold behind?
  rw [← String.length_toList]
  constructor
  · intro h
    split at h
    next hpiece =>
      obtain ⟨tail, rfl⟩ := List.isPrefixOf_iff_prefix.mp hpiece
      rw [List.drop_left] at h
      cases h
      rfl
    next => cases h
  · rintro rfl
    rw [if_pos (List.isPrefixOf_iff_prefix.mpr ⟨rest, rfl⟩), List.drop_left]

/-- A word is read up to the next blank. -/
theorem word?_eq_some_iff {word : List Char} : word? text = some word ↔ IsWord text word := by
  unfold word?
  constructor
  · intro h
    dsimp only at h
    split at h
    next => cases h
    next hne =>
      cases h
      refine ⟨by simpa using hne, fun c hc => ?_, text.dropWhile (!Unicode.isBlank ·), ?_, ?_⟩
      · simpa using List.all_eq_true.mp List.all_takeWhile c hc
      · rw [List.takeWhile_append_dropWhile]
      · intro c hc
        simpa using Text.head?_dropWhile_eq_false hc
  · rintro ⟨hne, hword, rest, rfl, hrest⟩
    have htake : (word ++ rest).takeWhile (!Unicode.isBlank ·) = word :=
      Text.takeWhile_append_of_stop (fun c hc => by simp [hword c hc])
        (fun c hc => by simp [hrest c hc])
    simp [htake, hne]

/-- A directive as bundlers write it. -/
theorem isMarked_append (behind : List Char) :
    IsMarked ("//# sourceMappingURL=".toList ++ behind) behind :=
  ⟨[], [' '], '#', rfl, nofun, .inl rfl, by simp⟩

/-- The text behind the equals sign is found. -/
theorem behindMark?_eq_some_iff : behindMark? line = some behind ↔ IsMarked line behind := by
  unfold behindMark?
  constructor
  · intro h
    obtain ⟨rest, hslashes, h⟩ := Option.bind_eq_some_iff.mp h
    split at h
    next mark rest =>
      obtain ⟨hmark, h⟩ := Text.guard_bind_eq_some_iff.mp h
      refine ⟨line.takeWhile isGap, rest.takeWhile isGap, mark, ?_, ?_, hmark, ?_⟩
      · rw [List.append_assoc _ "sourceMappingURL=".toList, ← behind?_eq_some_iff.mp h,
          List.takeWhile_append_dropWhile, List.append_assoc, ← behind?_eq_some_iff.mp hslashes,
          List.takeWhile_append_dropWhile]
      · exact fun c hc => isGap_iff.mp (List.all_eq_true.mp List.all_takeWhile c hc)
      · exact fun c hc => isGap_iff.mp (List.all_eq_true.mp List.all_takeWhile c hc)
    next => cases h
  · rintro ⟨indent, gap, mark, rfl, hindent, hmark, hgap⟩
    -- Neither a slash nor the first letter of the name is a space or a tab.
    have hslashes : (indent ++ "//".toList ++
        mark :: (gap ++ "sourceMappingURL=".toList ++ behind)).dropWhile isGap =
          "//".toList ++ mark :: (gap ++ "sourceMappingURL=".toList ++ behind) := by
      rw [List.append_assoc]
      refine Text.dropWhile_append_of_stop (fun c hc => isGap_iff.mpr (hindent c hc)) ?_
      intro c hc
      cases hc
      rfl
    have hname : (gap ++ "sourceMappingURL=".toList ++ behind).dropWhile isGap =
        "sourceMappingURL=".toList ++ behind := by
      rw [List.append_assoc]
      refine Text.dropWhile_append_of_stop (fun c hc => isGap_iff.mpr (hgap c hc)) ?_
      intro c hc
      cases hc
      rfl
    rw [hslashes, behind?_eq_some_iff.mpr rfl]
    refine Text.guard_bind_eq_some_iff.mpr ⟨hmark, ?_⟩
    rw [hname]
    exact behind?_eq_some_iff.mpr rfl

/-- The reference of a directive is found. -/
theorem reference?_eq_some_iff : reference? line = some reference ↔ IsReference line reference := by
  unfold reference? IsReference
  simp only [← behindMark?_eq_some_iff, ← word?_eq_some_iff]
  exact Option.bind_eq_some_iff

/-- May a character stand in the name of a character set? -/
def isNameChar (c : Char) : Bool := !(c = ';' || c = ',' || Unicode.isBlank c)

/-- A character of a name is no semicolon, no comma and no blank. -/
theorem isNameChar_iff {c : Char} :
    isNameChar c = true ↔ c ≠ ';' ∧ c ≠ ',' ∧ Unicode.isBlank c = false := by
  simp [isNameChar, and_assoc]

/-- A character set is left out when it has a name. -/
theorem dropCharset_eq (text : List Char) :
    dropCharset text =
      match behind? ";charset=" text with
      | none => text
      | some rest =>
        if (rest.takeWhile isNameChar).isEmpty then text else rest.dropWhile isNameChar :=
  rfl

/-- What stands behind an optional character set is found. -/
theorem dropCharset_eq_iff :
    dropCharset text = ";base64,".toList ++ rest ↔
      ∃ charset, IsCharset charset ∧ text = charset ++ ";base64,".toList ++ rest := by
  rw [dropCharset_eq]
  constructor
  · intro h
    split at h
    next => exact ⟨[], .inl rfl, h⟩
    next tail hcharset =>
      split at h
      next => exact ⟨[], .inl rfl, h⟩
      next hne =>
        refine ⟨";charset=".toList ++ tail.takeWhile isNameChar,
          .inr ⟨_, rfl, fun hnil => hne (by simp [hnil]), fun c hc => ?_⟩, ?_⟩
        · exact isNameChar_iff.mp (List.all_eq_true.mp List.all_takeWhile c hc)
        · rw [List.append_assoc, ← h, List.append_assoc, List.takeWhile_append_dropWhile]
          exact behind?_eq_some_iff.mp hcharset
  · rintro ⟨charset, rfl | ⟨name, rfl, hne, hname⟩, rfl⟩
    · -- Without a character set the text begins otherwise.
      rfl
    · have hcharset :
          behind? ";charset=" (";charset=".toList ++ name ++ ";base64,".toList ++ rest) =
            some (name ++ (";base64,".toList ++ rest)) :=
        behind?_eq_some_iff.mpr (by simp)
      have hrun : ∀ c ∈ name, isNameChar c = true := fun c hc => isNameChar_iff.mpr (hname c hc)
      have hstop : ∀ c ∈ (";base64,".toList ++ rest).head?, isNameChar c = false := by
        intro c hc
        cases hc
        rfl
      rw [hcharset]
      dsimp only
      rw [Text.takeWhile_append_of_stop hrun hstop, Text.dropWhile_append_of_stop hrun hstop,
        if_neg (by simpa using hne)]

/-- The payload of a directive is found. -/
theorem payload?_eq_some_iff : payload? line = some payload ↔ IsPayload line payload := by
  unfold payload? IsPayload
  constructor
  · intro h
    obtain ⟨marked, hmarked, h⟩ := Option.bind_eq_some_iff.mp h
    obtain ⟨typed, htyped, h⟩ := Option.bind_eq_some_iff.mp h
    obtain ⟨behind, hbehind, hword⟩ := Option.bind_eq_some_iff.mp h
    obtain ⟨charset, hcharset, rfl⟩ := dropCharset_eq_iff.mp (behind?_eq_some_iff.mp hbehind)
    refine ⟨charset, behind, hcharset, word?_eq_some_iff.mp hword, ?_⟩
    rw [List.append_assoc, List.append_assoc, ← List.append_assoc charset,
      ← behind?_eq_some_iff.mp htyped]
    exact behindMark?_eq_some_iff.mp hmarked
  · rintro ⟨charset, behind, hcharset, hword, hmarked⟩
    rw [List.append_assoc, List.append_assoc, ← List.append_assoc charset] at hmarked
    refine Option.bind_eq_some_iff.mpr ⟨_, behindMark?_eq_some_iff.mpr hmarked, ?_⟩
    refine Option.bind_eq_some_iff.mpr ⟨_, behind?_eq_some_iff.mpr rfl, ?_⟩
    refine Option.bind_eq_some_iff.mpr ⟨behind, behind?_eq_some_iff.mpr ?_, ?_⟩
    · exact dropCharset_eq_iff.mpr ⟨charset, hcharset, rfl⟩
    · exact word?_eq_some_iff.mpr hword

/-! ### Lines of a text -/

/-- A text without a blank is a word by itself. -/
theorem isWord_self {word : List Char} (hne : word ≠ [])
    (hword : ∀ c ∈ word, Unicode.isBlank c = false) : IsWord word word :=
  ⟨hne, hword, [], (List.append_nil word).symm, nofun⟩

/-- A word begins with the piece without a blank that the text begins with. -/
theorem exists_isWord_append {piece : List Char} (hne : piece ≠ [])
    (hpiece : ∀ c ∈ piece, Unicode.isBlank c = false) (text : List Char) :
    ∃ rest, IsWord (piece ++ text) (piece ++ rest) := by
  have hrun : ∀ c ∈ piece, (!Unicode.isBlank c) = true := fun c hc => by rw [hpiece c hc]; rfl
  have hword : word? (piece ++ text) = some (piece ++ text.takeWhile (!Unicode.isBlank ·)) := by
    simp [word?, List.takeWhile_append_of_pos hrun, hne]
  exact ⟨_, word?_eq_some_iff.mp hword⟩

/-- A line with a payload is a directive whose reference is a data URL. -/
theorem IsPayload.exists_isReference (h : IsPayload line payload) :
    ∃ rest, IsReference line ("data:".toList ++ rest) := by
  obtain ⟨charset, behind, -, -, hmarked⟩ := h
  obtain ⟨rest, hword⟩ := exists_isWord_append (by decide)
    (Text.isBlank_eq_false_of_all (by decide : ("data:".toList.all (!Unicode.isBlank ·)) = true))
    ("application/json".toList ++ charset ++ ";base64,".toList ++ behind)
  exact ⟨rest, _, hmarked, hword⟩

/-- A directive whose reference is no data URL has no payload. -/
theorem IsReference.not_isPayload (h : IsReference line reference)
    (hdata : ¬ "data:".toList <+: reference) (payload : List Char) : ¬ IsPayload line payload := by
  intro hpayload
  obtain ⟨rest, hrest⟩ := hpayload.exists_isReference
  -- A line has one reference.
  obtain rfl : reference = "data:".toList ++ rest :=
    Option.some.inj ((reference?_eq_some_iff.mpr h).symm.trans (reference?_eq_some_iff.mpr hrest))
  exact hdata ⟨rest, rfl⟩

variable {found? : List Char → List Char → Prop} {f : List Char → Option (List Char)}
  {found : List Char}

/-- What is found first is found at the first line at which it can be. -/
theorem findSome?_eq_some_iff_isFirst (hf : ∀ line found, f line = some found ↔ found? line found) :
    (text.splitOn '\n').findSome? f = some found ↔ IsFirst found? text found := by
  unfold IsFirst
  simp only [List.findSome?_eq_some_iff, Option.eq_none_iff_forall_ne_some, ne_eq, hf]

/-- Nothing is found if it cannot be found at any line. -/
theorem findSome?_eq_none_iff_forall (hf : ∀ line found, f line = some found ↔ found? line found) :
    (text.splitOn '\n').findSome? f = none ↔
      ∀ line ∈ text.splitOn '\n', ∀ found, ¬ found? line found := by
  rw [List.findSome?_eq_none_iff]
  simp only [Option.eq_none_iff_forall_ne_some, ne_eq, hf]

/-- The first payload decides. -/
theorem find?_eq_inline_iff {text payload : String} :
    find? text = some (.inline payload) ↔ IsFirst IsPayload text.toList payload.toList := by
  rw [← findSome?_eq_some_iff_isFirst fun _ _ => payload?_eq_some_iff]
  unfold find?
  dsimp only
  cases (text.toList.splitOn '\n').findSome? payload? with
  | none => cases (text.toList.splitOn '\n').findSome? reference? <;> simp
  | some found => simp [← String.toList_inj]

/-- Without a payload the first reference decides. -/
theorem find?_eq_external_iff {text reference : String} :
    find? text = some (.external reference) ↔ IsExternal text.toList reference.toList := by
  unfold IsExternal
  rw [← findSome?_eq_none_iff_forall fun _ _ => payload?_eq_some_iff,
    ← findSome?_eq_some_iff_isFirst fun _ _ => reference?_eq_some_iff]
  unfold find?
  dsimp only
  cases (text.toList.splitOn '\n').findSome? payload? with
  | some found => simp
  | none =>
    cases (text.toList.splitOn '\n').findSome? reference? with
    | none => simp
    | some found => simp [← String.toList_inj]

/-- A text refers to one map. -/
theorem IsExternal.reference_eq {text reference other : String}
    (h : IsExternal text.toList reference.toList) (hother : IsExternal text.toList other.toList) :
    reference = other := by
  have hfind := find?_eq_external_iff.mpr h
  rw [find?_eq_external_iff.mpr hother] at hfind
  cases hfind
  rfl

/-- A text without a directive decides nothing. -/
theorem find?_eq_none_iff {text : String} : find? text = none ↔ HasNone text.toList := by
  unfold HasNone
  rw [← findSome?_eq_none_iff_forall fun _ _ => reference?_eq_some_iff]
  unfold find?
  dsimp only
  cases hpayload : (text.toList.splitOn '\n').findSome? payload? with
  | none => simp
  | some found =>
    -- The line with the payload has a reference, too.
    obtain ⟨before, line, after, hlines, hfound, -⟩ := List.findSome?_eq_some_iff.mp hpayload
    obtain ⟨_, hreference⟩ := (payload?_eq_some_iff.mp hfound).exists_isReference
    have hline : line ∈ text.toList.splitOn '\n' := by simp [hlines]
    simp only [reduceCtorEq, false_iff, List.findSome?_eq_none_iff]
    intro hnone
    have := hnone line hline
    rw [reference?_eq_some_iff.mpr hreference] at this
    cases this

/-- A text has no directive, or one that holds a map, or one that refers to it. -/
theorem hasNone_or_isPayload_or_isExternal (text : String) :
    HasNone text.toList ∨ (∃ payload : String, IsFirst IsPayload text.toList payload.toList) ∨
      ∃ reference : String, IsExternal text.toList reference.toList := by
  cases hfind : find? text with
  | none => exact .inl (find?_eq_none_iff.mp hfind)
  | some found =>
    cases found with
    | inline payload => exact .inr (.inl ⟨payload, find?_eq_inline_iff.mp hfind⟩)
    | external reference => exact .inr (.inr ⟨reference, find?_eq_external_iff.mp hfind⟩)

/-- If any directive holds a map, the first of these decides. -/
theorem exists_isFirst_isPayload {text : String} (hline : line ∈ text.toList.splitOn '\n')
    (h : IsPayload line payload) :
    ∃ first : String, IsFirst IsPayload text.toList first.toList := by
  rcases hasNone_or_isPayload_or_isExternal text with hnone | hfirst | ⟨reference, hnone, -⟩
  · obtain ⟨_, hreference⟩ := h.exists_isReference
    exact absurd hreference (hnone line hline _)
  · exact hfirst
  · exact absurd h (hnone line hline payload)

/-! ### A line behind other lines -/

/-- A line is added to whole lines. -/
theorem exists_lines_append {head last : List Char} (hhead : head = [] ∨ head.getLast? = some '\n')
    (hlast : '\n' ∉ last) : ∃ lines, head.splitOn '\n' = lines ++ [[]] ∧
      (head ++ last).splitOn '\n' = lines ++ [last] := by
  rcases hhead with rfl | hhead
  · exact ⟨[], rfl, List.splitOn_eq_singleton hlast⟩
  · -- Behind the last line feed an empty line begins, which the added one takes the place of.
    obtain ⟨front, rfl⟩ := List.getLast?_eq_some_iff.mp hhead
    refine ⟨front.splitOn '\n', Text.splitOn_append_cons '\n' front [], ?_⟩
    rw [List.append_assoc, List.singleton_append, Text.splitOn_append_cons,
      List.splitOn_eq_singleton hlast]

/-- A text without a blank has no line feed. -/
theorem not_mem_of_isBlank (h : ∀ c ∈ text, Unicode.isBlank c = false) : '\n' ∉ text :=
  fun hmem => absurd (h '\n' hmem) (by decide)

variable {head : List Char} (hhead : head = [] ∨ head.getLast? = some '\n') (hnone : HasNone head)
include hhead hnone

/-- A payload decides behind lines without a directive. -/
theorem isFirst_isPayload_append (hne : payload ≠ [])
    (hblank : ∀ c ∈ payload, Unicode.isBlank c = false) :
    IsFirst IsPayload
      (head ++ "//# sourceMappingURL=data:application/json;base64,".toList ++ payload) payload := by
  have hpieces : "//# sourceMappingURL=data:application/json;base64,".toList =
      "//# sourceMappingURL=".toList ++
        ("data:application/json".toList ++ [] ++ ";base64,".toList) := by
    decide
  have hpayload : IsPayload
      ("//# sourceMappingURL=data:application/json;base64,".toList ++ payload) payload := by
    rw [hpieces, List.append_assoc]
    exact ⟨[], payload, .inl rfl, isWord_self hne hblank, isMarked_append _⟩
  have hlast : '\n' ∉ "//# sourceMappingURL=data:application/json;base64,".toList ++ payload := by
    rw [List.mem_append, not_or]
    exact ⟨by decide, not_mem_of_isBlank hblank⟩
  obtain ⟨lines, hlines, happend⟩ := exists_lines_append hhead hlast
  rw [List.append_assoc]
  -- A payload further up would be a directive there.
  refine ⟨lines, _, [], happend, hpayload, fun line hline other h => ?_⟩
  obtain ⟨_, hreference⟩ := h.exists_isReference
  exact hnone line (by simp [hlines, hline]) _ hreference

/-- A reference that is no data URL decides behind lines without a directive. -/
theorem isExternal_append (hne : reference ≠ [])
    (hblank : ∀ c ∈ reference, Unicode.isBlank c = false) (hdata : ¬ "data:".toList <+: reference) :
    IsExternal (head ++ "//# sourceMappingURL=".toList ++ reference) reference := by
  have hreference : IsReference ("//# sourceMappingURL=".toList ++ reference) reference :=
    ⟨reference, isMarked_append _, isWord_self hne hblank⟩
  have hlast : '\n' ∉ "//# sourceMappingURL=".toList ++ reference := by
    rw [List.mem_append, not_or]
    exact ⟨by decide, not_mem_of_isBlank hblank⟩
  obtain ⟨lines, hlines, happend⟩ := exists_lines_append hhead hlast
  rw [List.append_assoc]
  refine ⟨fun line hline payload h => ?_, lines, _, [], happend, hreference,
    fun line hline other h => hnone line (by simp [hlines, hline]) other h⟩
  rw [happend] at hline
  rcases List.mem_append.mp hline with hline | hline
  · obtain ⟨_, hother⟩ := h.exists_isReference
    exact hnone line (by simp [hlines, hline]) _ hother
  · obtain rfl := List.mem_singleton.mp hline
    exact hreference.not_isPayload hdata payload h

end Retrace.Directive
