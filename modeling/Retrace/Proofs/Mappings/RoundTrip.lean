import Mathlib.Algebra.Ring.Int.Defs
import Mathlib.Data.List.Chain
import Retrace.Proofs.MappingTable
import Retrace.Proofs.Vlq
import Retrace.SourceMap.Mappings

/-!
# Writing and reading mappings

A text that is written from the mappings of each line is read back to these mappings. It needs that
each number differs by no more than 32 bits with a sign from the one that it counts on from
(`DifferencesFit`); the chains of these numbers are told without the writer's counters.

The writer's counters are the reader's, segment by segment (`readSegment_write`), and so line by
line (`readSegments_writeSegments`, `readLines_writeLines`). That the text is cut where it was put
together holds because digits are no separators.
-/

namespace Retrace.Mappings

/-- Does the difference between two numbers fit 32 bits with a sign? -/
def Near (a b : UInt32) : Prop :=
  -2 ^ 31 ≤ (b.toNat : Int) - a.toNat ∧ (b.toNat : Int) - a.toNat < 2 ^ 31

instance (a b : UInt32) : Decidable (Near a b) := inferInstanceAs (Decidable (_ ∧ _))

/-- The numbers of origins, each counting on from the one before and the first from a total, differ
by what fits. Names count on over origins without one. -/
structure OriginsFit (totals : Totals) (origins : List Origin) : Prop where
  /-- The numbers of the sources. -/
  source : (totals.source :: origins.map (·.sourceIndex)).IsChain Near
  /-- The lines in the sources. -/
  line : (totals.line :: origins.map (·.line)).IsChain Near
  /-- The columns in the sources. -/
  column : (totals.column :: origins.map (·.column)).IsChain Near
  /-- The numbers of the names. -/
  name : (totals.name :: origins.filterMap (·.nameIndex)).IsChain Near

/-- The columns of a line, the first counting on from a column, differ by what fits. -/
def ColumnsFit (column : UInt32) (mappings : List Mapping) : Prop :=
  (column :: mappings.map (·.generatedColumn)).IsChain Near

/-- The differences that are written fit: columns count from zero on each line, the numbers of
origins from zero at the start and on through all lines. -/
structure DifferencesFit (lines : List (List Mapping)) : Prop where
  /-- The columns of each line. -/
  columns : ∀ line ∈ lines, ColumnsFit 0 line
  /-- The origins of all lines. -/
  origins : OriginsFit .zero (lines.flatten.filterMap (·.origin))

/-! ### One segment -/

/-- Counting the difference on leads to the next number. -/
theorem advance_difference (field : SegmentField) {total next : UInt32} (h : Near total next) :
    advance field total (difference total next) = .ok next := by
  have hdifference : (difference total next).toInt = next.toNat - total.toNat :=
    Int32.toInt_ofInt_of_le h.1 h.2
  have hnext : (total.toNat : Int) + (difference total next).toInt = next.toNat := by
    rw [hdifference]; omega
  have hlt := next.toNat_lt
  have hfits : 0 ≤ (next.toNat : Int) ∧ (next.toNat : Int) < UInt32.size := by
    rw [UInt32.size]; omega
  unfold advance
  rw [hnext, if_pos hfits, Int.toNat_natCast, UInt32.ofNat_toNat]

/-- The first origin fits, and the others count on from it. -/
theorem OriginsFit.uncons {totals : Totals} {origin : Origin} {origins : List Origin}
    (h : OriginsFit totals (origin :: origins)) :
    Near totals.source origin.sourceIndex ∧ Near totals.line origin.line ∧
      Near totals.column origin.column ∧ (∀ name ∈ origin.nameIndex, Near totals.name name) ∧
      OriginsFit (writeOrigin totals (some origin)).2 origins := by
  obtain ⟨hsource, hline, hcolumn, hname⟩ := h
  simp only [List.map_cons, List.isChain_cons_cons] at hsource hline hcolumn
  refine ⟨hsource.1, hline.1, hcolumn.1, ?_⟩
  cases horigin : origin.nameIndex with
  | none =>
    -- Without a name the chain of names is that of the other origins.
    rw [List.filterMap_cons, horigin] at hname
    refine ⟨by simp, ?_⟩
    simp only [writeOrigin, horigin]
    exact ⟨hsource.2, hline.2, hcolumn.2, hname⟩
  | some name =>
    rw [List.filterMap_cons, horigin, List.isChain_cons_cons] at hname
    refine ⟨by simpa using hname.1, ?_⟩
    simp only [writeOrigin, horigin]
    exact ⟨hsource.2, hline.2, hcolumn.2, hname.2⟩

/-- The numbers of an origin are read back, with the same totals after them. -/
theorem readOrigin_writeOrigin {totals : Totals} {origin : Option Origin} {origins : List Origin}
    (h : OriginsFit totals (origin.toList ++ origins)) :
    readOrigin totals (writeOrigin totals origin).1 =
      .ok (origin, (writeOrigin totals origin).2) ∧
    OriginsFit (writeOrigin totals origin).2 origins := by
  cases origin with
  | none => exact ⟨rfl, h⟩
  | some o =>
    obtain ⟨hsource, hline, hcolumn, hname, hrest⟩ := h.uncons
    refine ⟨?_, hrest⟩
    obtain ⟨source, line, column, nameIndex⟩ := o
    cases nameIndex with
    | none =>
      simp only [writeOrigin, readOrigin, advance_difference _ hsource,
        advance_difference _ hline, advance_difference _ hcolumn]
      rfl
    | some name =>
      simp only [writeOrigin, List.cons_append, List.nil_append, readOrigin,
        advance_difference _ hsource, advance_difference _ hline, advance_difference _ hcolumn,
        advance_difference _ (hname name rfl)]
      rfl

/-- The numbers of a mapping. -/
def numbersOf (column : UInt32) (totals : Totals) (m : Mapping) : List Int32 :=
  difference column m.generatedColumn :: (writeOrigin totals m.origin).1

/-- A written segment is read back, with the same totals after it. -/
theorem readSegment_write {line column : UInt32} {totals : Totals} {m : Mapping}
    {origins : List Origin} (hline : m.generatedLine = line)
    (hcolumn : Near column m.generatedColumn)
    (h : OriginsFit totals (m.origin.toList ++ origins)) :
    readSegment line column totals (Vlq.write (numbersOf column totals m)) =
      .ok (m, (writeOrigin totals m.origin).2) := by
  rw [readSegment_of_read (Vlq.read_write _), numbersOf,
    readValues_cons (advance_difference _ hcolumn), (readOrigin_writeOrigin h).1, ← hline]
  rfl

/-! ### All segments -/

/-- The first mapping is written with the totals so far, the others with those after it. -/
theorem writeSegments_cons (column : UInt32) (totals : Totals) (m : Mapping)
    (mappings : List Mapping) :
    writeSegments column totals (m :: mappings) =
      (Vlq.write (numbersOf column totals m) ::
        (writeSegments m.generatedColumn (writeOrigin totals m.origin).2 mappings).1,
      (writeSegments m.generatedColumn (writeOrigin totals m.origin).2 mappings).2) :=
  rfl

/-- The written segments of a line are read back, with the same totals after them. -/
theorem readSegments_writeSegments {line : UInt32} {origins : List Origin}
    (mappings : List Mapping) :
    ∀ (column : UInt32) (totals : Totals), (∀ m ∈ mappings, m.generatedLine = line) →
      ColumnsFit column mappings →
      OriginsFit totals (mappings.filterMap (·.origin) ++ origins) →
      readSegments line column totals (writeSegments column totals mappings).1 =
        .ok (mappings, (writeSegments column totals mappings).2) ∧
      OriginsFit (writeSegments column totals mappings).2 origins := by
  induction mappings with
  | nil => intro column totals _ _ h; exact ⟨rfl, h⟩
  | cons m mappings ih =>
    intro column totals hlines hcolumns h
    obtain ⟨hcolumn, hcolumns⟩ := List.isChain_cons_cons.mp hcolumns
    -- The mapping's own origin, if it has one, comes before those of the others.
    have horigins : OriginsFit totals
        (m.origin.toList ++ (mappings.filterMap (·.origin) ++ origins)) := by
      cases horigin : m.origin <;> simpa [horigin] using h
    have hread := readSegment_write (hlines m List.mem_cons_self) hcolumn horigins
    obtain ⟨hreads, hrest⟩ := ih m.generatedColumn _
      (fun m' hm' => hlines m' (List.mem_cons_of_mem _ hm')) hcolumns
      (readOrigin_writeOrigin horigins).2
    refine ⟨?_, hrest⟩
    rw [writeSegments_cons, readSegments_cons hread, hreads]
    rfl

/-- Written segments have digits, and nothing else. -/
theorem isDigits_of_mem_writeSegments {segment : List Char} (mappings : List Mapping) :
    ∀ (column : UInt32) (totals : Totals), segment ∈ (writeSegments column totals mappings).1 →
      segment ≠ [] ∧ ∀ c ∈ segment, (Vlq.digit? c).isSome := by
  induction mappings with
  | nil => intro column totals h; cases h
  | cons m mappings ih =>
    intro column totals h
    rcases List.mem_cons.mp h with rfl | h
    · refine ⟨?_, fun c hc => Vlq.digit?_isSome_of_mem_write hc⟩
      rw [Vlq.write, List.flatMap_cons]
      exact List.append_ne_nil_of_left_ne_nil (Vlq.writeNumber_ne_nil _) _
    · exact ih _ _ h

/-- What is put together has the characters of the pieces and the separator. -/
theorem mem_of_mem_intercalate {separator c : Char} {pieces : List (List Char)}
    (h : c ∈ [separator].intercalate pieces) : c = separator ∨ ∃ piece ∈ pieces, c ∈ piece := by
  induction pieces with
  | nil => cases h
  | cons piece pieces ih =>
    cases pieces with
    | nil => exact .inr ⟨piece, List.mem_singleton_self _, by simpa using h⟩
    | cons next pieces =>
      rw [List.intercalate_cons_cons, List.append_assoc] at h
      rcases List.mem_append.mp h with h | h
      · exact .inr ⟨piece, List.mem_cons_self, h⟩
      · rcases List.mem_cons.mp h with h | h
        · exact .inl h
        · rcases ih h with h | ⟨other, hother, hc⟩
          · exact .inl h
          · exact .inr ⟨other, List.mem_cons_of_mem _ hother, hc⟩

/-- The first line is written with the totals so far, the others with those after it. -/
theorem writeLines_cons (totals : Totals) (mappings : List Mapping) (lines : List (List Mapping)) :
    writeLines totals (mappings :: lines) =
      [','].intercalate (writeSegments 0 totals mappings).1 ::
        writeLines (writeSegments 0 totals mappings).2 lines :=
  rfl

/-- A written line is cut into its segments. -/
theorem segmentsOf_writeSegments (column : UInt32) (totals : Totals) (mappings : List Mapping) :
    segmentsOf ([','].intercalate (writeSegments column totals mappings).1) =
      (writeSegments column totals mappings).1 := by
  generalize hsegments : (writeSegments column totals mappings).1 = segments
  have hdigits : ∀ segment ∈ segments, segment ≠ [] ∧ ∀ c ∈ segment, (Vlq.digit? c).isSome :=
    fun segment hsegment =>
      isDigits_of_mem_writeSegments mappings column totals (hsegments ▸ hsegment)
  by_cases hnil : segments = []
  · rw [hnil]; rfl
  · -- Segments consist of digits, and a comma is none.
    have hcomma : ∀ segment ∈ segments, ',' ∉ segment := by
      intro segment hsegment hmem
      have := (hdigits segment hsegment).2 ',' hmem
      simp [Vlq.digit?, Base64.value?] at this
    unfold segmentsOf
    rw [List.splitOn_intercalate ',' hcomma hnil, List.filter_eq_self]
    intro segment hsegment
    simpa using (hdigits segment hsegment).1

/-- A written line has no semicolon. -/
theorem semicolon_not_mem_writeLines {text : List Char} (lines : List (List Mapping)) :
    ∀ totals : Totals, text ∈ writeLines totals lines → ';' ∉ text := by
  induction lines with
  | nil => intro totals h; cases h
  | cons mappings lines ih =>
    intro totals h
    rcases List.mem_cons.mp h with rfl | h
    · intro hmem
      rcases mem_of_mem_intercalate hmem with h | ⟨segment, hsegment, hc⟩
      · cases h
      · have := (isDigits_of_mem_writeSegments mappings _ _ hsegment).2 ';' hc
        simp [Vlq.digit?, Base64.value?] at this
    · exact ih _ h

/-- The written lines are read back. -/
theorem readLines_writeLines (lines : List (List Mapping)) :
    ∀ (index : Nat) (totals : Totals),
      (∀ (i : Nat) (line : List Mapping), lines[i]? = some line →
        ∀ m ∈ line, m.generatedLine.toNat = index + i) →
      (∀ line ∈ lines, ColumnsFit 0 line) →
      OriginsFit totals (lines.flatten.filterMap (·.origin)) →
      readLines index totals (writeLines totals lines) = .ok lines.flatten := by
  induction lines with
  | nil => intros; rfl
  | cons mappings lines ih =>
    intro index totals hlines hcolumns horigins
    rw [List.flatten_cons, List.filterMap_append] at horigins
    have hline : ∀ m ∈ mappings, m.generatedLine = UInt32.ofNat index := by
      intro m hm
      have := hlines 0 mappings rfl m hm
      rw [Nat.add_zero] at this
      rw [← this, UInt32.ofNat_toNat]
    -- The other lines are read with the totals that this one is written up to.
    obtain ⟨hreads, hrest⟩ := readSegments_writeSegments mappings 0 totals hline
      (hcolumns mappings List.mem_cons_self) horigins
    have htail := ih (index + 1) _
      (fun i line hi m hm => by rw [hlines (i + 1) line (by simpa using hi) m hm]; omega)
      (fun line hl => hcolumns line (List.mem_cons_of_mem _ hl)) hrest
    rw [← segmentsOf_writeSegments] at hreads
    rw [writeLines_cons, readLines_cons hreads, htail]
    rfl

/-- A written text is cut into its lines. -/
theorem readList_write (lines : List (List Mapping))
    (hlines : ∀ (i : Nat) (line : List Mapping), lines[i]? = some line →
      ∀ m ∈ line, m.generatedLine.toNat = i)
    (hfit : DifferencesFit lines) : readList (write lines) = .ok lines.flatten := by
  -- No line at all is written as one empty line is.
  by_cases hnil : lines = []
  · rw [hnil]; rfl
  · have hsplit : (write lines).splitOn ';' = writeLines .zero lines := by
      refine List.splitOn_intercalate ';'
        (fun text htext => semicolon_not_mem_writeLines lines _ htext) ?_
      cases lines with
      | nil => exact absurd rfl hnil
      | cons mappings lines => rw [writeLines_cons]; simp
    unfold readList
    rw [hsplit]
    exact readLines_writeLines lines 0 _ (by simpa using hlines) hfit.columns hfit.origins

/-- A text that is written from the mappings of each line is read back to a table of these mappings,
in the order of the generated text and at each position in the order in which they were given. -/
theorem read_write_spec (lines : List (List Mapping))
    (hlines : ∀ (i : Nat) (line : List Mapping), lines[i]? = some line →
      ∀ m ∈ line, m.generatedLine.toNat = i)
    (hfit : DifferencesFit lines) :
    ∃ table, read (String.ofList (write lines)) = .ok table ∧
      table.entries.toList.Perm lines.flatten ∧
      table.entries.toList.Pairwise (fun a b => a.inOrder b = true) ∧
      ∀ line column, table.entries.toList.filter (·.isAt line column) =
        lines.flatten.filter (·.isAt line column) := by
  refine ⟨.ofList lines.flatten, ?_, List.mergeSort_perm _ _, MappingTable.sorted _, fun _ _ => ?_⟩
  · unfold read
    rw [String.toList_ofList, readList_write lines hlines hfit]
    rfl
  · exact MappingTable.filter_ofList _ _ _

/-- Three lines, the second without mappings, are written and read back. -/
theorem read_write_spec_three_lines :
    let lines : List (List Mapping) := [[⟨0, 7, some ⟨0, 3, 4, some 2⟩⟩], [],
      [⟨2, 5, none⟩, ⟨2, 1, some ⟨1, 0, 9, none⟩⟩]]
    ∃ table, read (String.ofList (write lines)) = .ok table ∧
      table.entries.toList.Perm lines.flatten := by
  intro lines
  have hlines : ∀ (i : Nat) (line : List Mapping), lines[i]? = some line →
      ∀ m ∈ line, m.generatedLine.toNat = i := by
    intro i line hline m hm
    match i with
    | 0 | 1 | 2 =>
      cases hline
      revert m
      decide
    | i + 3 => cases hline
  have hfit : DifferencesFit lines :=
    ⟨by unfold ColumnsFit; decide, ⟨by decide, by decide, by decide, by decide⟩⟩
  obtain ⟨table, hread, hperm, -, -⟩ := read_write_spec lines hlines hfit
  exact ⟨table, hread, hperm⟩

end Retrace.Mappings
