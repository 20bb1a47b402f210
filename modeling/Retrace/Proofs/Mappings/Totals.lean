import Mathlib.Algebra.Ring.Int.Defs
import Retrace.Proofs.Mappings.Segments

/-!
# Running totals

The numbers of a mappings text are differences. What a mapping holds is said here without the
reader's counters, as sums over the segments up to its own: the column over those of its line, the
other numbers over all (`runningTotal`). `fault?` says in the same terms which fault a segment has,
and `Describes` what its mapping holds.

`readSegment_spec` is the step: from counters that are the sums over the earlier segments, the
reader refuses a segment with its fault or gives its mapping, with counters that are the sums over
one segment more.
-/

namespace Retrace.Mappings

/-- Does a number fit 32 bits without a sign? -/
def Fits (n : Int) : Prop := 0 ≤ n ∧ n < 2 ^ 32

instance (n : Int) : Decidable (Fits n) := inferInstanceAs (Decidable (_ ∧ _))

/-- The numbers of a segment, none if its characters do not form numbers. -/
def Segment.values (s : Segment) : List Int :=
  match Vlq.read s.text with
  | .ok values => values.map Int32.toInt
  | .error _ => []

/-- The sum of the numbers at a place of segments, over those that have one there. -/
def sumAt (place : Nat) (segments : List Segment) : Int :=
  (segments.filterMap (·.values[place]?)).sum

/-- What a number counts up to with a segment behind `earlier` ones. The column starts anew on each
line, the others count on through the whole text. -/
def runningTotal (field : SegmentField) (earlier : List Segment) (s : Segment) : Int :=
  match field with
  | .generatedColumn => sumAt 0 ((earlier ++ [s]).filter (·.line = s.line))
  | .sourceIndex => sumAt 1 (earlier ++ [s])
  | .sourceLine => sumAt 2 (earlier ++ [s])
  | .sourceColumn => sumAt 3 (earlier ++ [s])
  | .nameIndex => sumAt 4 (earlier ++ [s])

/-- What is wrong with the numbers of a segment behind `earlier` ones, the column apart: how many
there are, then what they count up to, in their order. -/
def originFault? (earlier : List Segment) (s : Segment) : Option SegmentFault :=
  if s.values.length ∉ [1, 4, 5] then some .fieldCount
  else
    ([.sourceIndex, .sourceLine, .sourceColumn, .nameIndex].find?
      fun field => ¬ Fits (runningTotal field earlier s)).map .outOfRange

/-- What is wrong with the numbers of a segment behind `earlier` ones, the column first. -/
def countFault? (earlier : List Segment) (s : Segment) : Option SegmentFault :=
  if ¬ Fits (runningTotal .generatedColumn earlier s) then some (.outOfRange .generatedColumn)
  else originFault? earlier s

/-- The fault of a segment behind `earlier` ones. -/
def fault? (earlier : List Segment) (s : Segment) : Option MapFault :=
  match Vlq.read s.text with
  | .error fault => some (vlqFault s.text fault)
  | .ok _ => (countFault? earlier s).map (.segment (String.ofList s.text))

/-- A segment without fault: its characters form one, four or five numbers, and what these count up
to fits 32 bits. -/
structure IsSound (earlier : List Segment) (s : Segment) : Prop where
  /-- Its characters form numbers. -/
  readable : ∃ values, Vlq.read s.text = .ok values
  /-- There are one, four or five of them. -/
  fieldCount : s.values.length ∈ [1, 4, 5]
  /-- All totals fit. -/
  totals : ∀ field, Fits (runningTotal field earlier s)

/-- An origin holds the totals at a segment: none for a single number, one without a name for four
numbers and one with a name for five. -/
def DescribesOrigin (earlier : List Segment) (s : Segment) : Option Origin → Prop
  | none => s.values.length = 1
  | some o =>
    (o.sourceIndex.toNat : Int) = runningTotal .sourceIndex earlier s ∧
      (o.line.toNat : Int) = runningTotal .sourceLine earlier s ∧
      (o.column.toNat : Int) = runningTotal .sourceColumn earlier s ∧
      match o.nameIndex with
      | none => s.values.length = 4
      | some name => s.values.length = 5 ∧ (name.toNat : Int) = runningTotal .nameIndex earlier s

/-- A mapping holds the totals at a segment. Its line is the segment's, counted in 32 bits. -/
structure Describes (earlier : List Segment) (s : Segment) (m : Mapping) : Prop where
  /-- The line of the generated text. -/
  line : m.generatedLine = UInt32.ofNat s.line
  /-- The column is the total on that line. -/
  column : (m.generatedColumn.toNat : Int) = runningTotal .generatedColumn earlier s
  /-- The origin is that of the segment's other numbers. -/
  origin : DescribesOrigin earlier s m.origin

/-- The counters of an origin are the sums over the segments so far. -/
structure Carries (earlier : List Segment) (totals : Totals) : Prop where
  /-- The number of the source. -/
  source : (totals.source.toNat : Int) = sumAt 1 earlier
  /-- The line in the source. -/
  line : (totals.line.toNat : Int) = sumAt 2 earlier
  /-- The column in the source. -/
  column : (totals.column.toNat : Int) = sumAt 3 earlier
  /-- The number of the name. -/
  name : (totals.name.toNat : Int) = sumAt 4 earlier

/-! ### Sums -/

/-- A segment adds its number, if it has one. -/
theorem sumAt_concat (place : Nat) (earlier : List Segment) (s : Segment) :
    sumAt place (earlier ++ [s]) = sumAt place earlier + s.values[place]?.getD 0 := by
  simp only [sumAt, List.filterMap_append, List.sum_append]
  cases h : s.values[place]? <;> simp [h]

/-- The column of a segment counts on from the segments of its line. -/
theorem runningTotal_generatedColumn (earlier : List Segment) (s : Segment) :
    runningTotal .generatedColumn earlier s =
      sumAt 0 (earlier.filter (·.line = s.line)) + s.values[0]?.getD 0 := by
  simp [runningTotal, List.filter_append, ← sumAt_concat]

/-- A number of 32 bits fits. -/
theorem fits_toNat (n : UInt32) : Fits n.toNat := by
  have := n.toNat_lt
  constructor <;> omega

/-- Counting on gives the sum if it fits and the field's fault if not. -/
theorem advance_cases (field : SegmentField) (total : UInt32) (delta : Int32) :
    (Fits (total.toNat + delta.toInt) ∧
      ∃ next, advance field total delta = .ok next ∧
        (next.toNat : Int) = total.toNat + delta.toInt) ∨
    (¬ Fits (total.toNat + delta.toInt) ∧
      advance field total delta = .error (.outOfRange field)) := by
  by_cases h : Fits (total.toNat + delta.toInt)
  · refine .inl ⟨h, UInt32.ofNat (total.toNat + delta.toInt).toNat, ?_, ?_⟩
    · exact if_pos h
    · obtain ⟨hnonneg, hlt⟩ := h
      rw [UInt32.toNat_ofNat_of_lt' (by rw [UInt32.size]; omega), Int.toNat_of_nonneg hnonneg]
  · exact .inr ⟨h, if_neg h⟩

/-- What the numbers of an origin count up to, from counters that carry the earlier segments. -/
theorem Carries.runningTotal {earlier : List Segment} {totals : Totals}
    (h : Carries earlier totals) (s : Segment) :
    runningTotal .sourceIndex earlier s = totals.source.toNat + s.values[1]?.getD 0 ∧
      runningTotal .sourceLine earlier s = totals.line.toNat + s.values[2]?.getD 0 ∧
      runningTotal .sourceColumn earlier s = totals.column.toNat + s.values[3]?.getD 0 ∧
      runningTotal .nameIndex earlier s = totals.name.toNat + s.values[4]?.getD 0 := by
  simp only [Mappings.runningTotal, sumAt_concat, h.source, h.line, h.column, h.name, and_self]

/-- Counters that hold the totals at a segment carry it too. -/
theorem carries_concat {earlier : List Segment} {s : Segment} {totals : Totals}
    (hsource : (totals.source.toNat : Int) = runningTotal .sourceIndex earlier s)
    (hline : (totals.line.toNat : Int) = runningTotal .sourceLine earlier s)
    (hcolumn : (totals.column.toNat : Int) = runningTotal .sourceColumn earlier s)
    (hname : (totals.name.toNat : Int) = runningTotal .nameIndex earlier s) :
    Carries (earlier ++ [s]) totals :=
  ⟨hsource, hline, hcolumn, hname⟩

/-! ### One segment -/

/-- The numbers of an origin whose total is the first that does not fit. -/
def placeFault? (earlier : List Segment) (s : Segment) : Option SegmentField :=
  [.sourceIndex, .sourceLine, .sourceColumn].find?
    fun field => ¬ Fits (runningTotal field earlier s)

/-- With four or five numbers, the place of an origin is judged before its name. -/
theorem originFault?_eq {earlier : List Segment} {s : Segment}
    (hlength : s.values.length = 4 ∨ s.values.length = 5) :
    originFault? earlier s =
      ((placeFault? earlier s).or
        ([.nameIndex].find?
          fun field => ¬ Fits (runningTotal field earlier s))).map .outOfRange := by
  rw [placeFault?, ← List.find?_append, originFault?, if_neg (by simp; omega)]
  rfl

/-- Counting on the three numbers of a place gives their totals, or stops at the first that does not
fit, whatever was to follow. -/
theorem place_cases {earlier : List Segment} {totals : Totals} (h : Carries earlier totals)
    {s : Segment} {delta a b c : Int32} {values : List Int32}
    (hvalues : s.values = (delta :: a :: b :: c :: values).map Int32.toInt) :
    (∃ source line column, advance .sourceIndex totals.source a = .ok source ∧
      advance .sourceLine totals.line b = .ok line ∧
      advance .sourceColumn totals.column c = .ok column ∧
      (source.toNat : Int) = runningTotal .sourceIndex earlier s ∧
      (line.toNat : Int) = runningTotal .sourceLine earlier s ∧
      (column.toNat : Int) = runningTotal .sourceColumn earlier s ∧
      placeFault? earlier s = none) ∨
    ∃ field, placeFault? earlier s = some field ∧
      ∀ {α : Type} (next : UInt32 → UInt32 → UInt32 → Except SegmentFault α),
        (do
          let source ← advance .sourceIndex totals.source a
          let line ← advance .sourceLine totals.line b
          let column ← advance .sourceColumn totals.column c
          next source line column) = .error (.outOfRange field) := by
  obtain ⟨hsource, hline, hcolumn, -⟩ := h.runningTotal s
  simp [hvalues] at hsource hline hcolumn
  -- The cases nest as the counting does: a number is reached only if those before it fit.
  rcases advance_cases .sourceIndex totals.source a with
    ⟨fsource, source, esource, vsource⟩ | ⟨fsource, esource⟩
  · rcases advance_cases .sourceLine totals.line b with
      ⟨fline, line, eline, vline⟩ | ⟨fline, eline⟩
    · rcases advance_cases .sourceColumn totals.column c with
        ⟨fcolumn, column, ecolumn, vcolumn⟩ | ⟨fcolumn, ecolumn⟩
      · refine .inl ⟨source, line, column, esource, eline, ecolumn, ?_, ?_, ?_, ?_⟩
        · rw [vsource, hsource]
        · rw [vline, hline]
        · rw [vcolumn, hcolumn]
        · simp [placeFault?, hsource, hline, hcolumn, fsource, fline, fcolumn]
      · refine .inr ⟨.sourceColumn, ?_, fun next => ?_⟩
        · simp [placeFault?, hsource, hline, hcolumn, fsource, fline, fcolumn]
        · rw [esource, eline, ecolumn]; rfl
    · refine .inr ⟨.sourceLine, ?_, fun next => ?_⟩
      · simp [placeFault?, hsource, hline, fsource, fline]
      · rw [esource, eline]; rfl
  · refine .inr ⟨.sourceIndex, ?_, fun next => ?_⟩
    · simp [placeFault?, hsource, fsource]
    · rw [esource]; rfl

/-- The numbers after the column give their fault or the origin. -/
theorem readOrigin_spec {earlier : List Segment} {totals : Totals} (h : Carries earlier totals)
    {s : Segment} {delta : Int32} {values : List Int32}
    (hvalues : s.values = (delta :: values).map Int32.toInt) :
    (∃ origin totals', readOrigin totals values = .ok (origin, totals') ∧
      originFault? earlier s = none ∧ DescribesOrigin earlier s origin ∧
      Carries (earlier ++ [s]) totals') ∨
    ∃ fault, readOrigin totals values = .error fault ∧ originFault? earlier s = some fault := by
  obtain ⟨hsource, hline, hcolumn, hname⟩ := h.runningTotal s
  match values with
  | [] =>
    -- Without numbers for an origin no total moves.
    simp [hvalues] at hsource hline hcolumn hname
    refine .inl ⟨none, totals, rfl, ?_, ?_, ?_⟩
    · simp [originFault?, hvalues, hsource, hline, hcolumn, hname, fits_toNat]
    · simp [DescribesOrigin, hvalues]
    · apply carries_concat <;> simp [hsource, hline, hcolumn, hname]
  -- Two, three or more than five numbers with the column: nothing is counted.
  | [_] => exact .inr ⟨.fieldCount, rfl, by simp [originFault?, hvalues]⟩
  | [_, _] => exact .inr ⟨.fieldCount, rfl, by simp [originFault?, hvalues]⟩
  | [a, b, c] =>
    have hlength : s.values.length = 4 := by simp [hvalues]
    rcases place_cases h hvalues with
      ⟨source, line, column, esource, eline, ecolumn, vsource, vline, vcolumn, hnone⟩ |
      ⟨field, hfield, hstop⟩
    · -- Without a name the name's total stays.
      simp [hvalues] at hname
      refine .inl ⟨some ⟨source, line, column, none⟩, ⟨source, line, column, totals.name⟩,
        ?_, ?_, ?_, ?_⟩
      · rw [readOrigin, esource, eline, ecolumn]; rfl
      · simp [originFault?_eq (.inl hlength), hnone, hname, fits_toNat]
      · exact ⟨vsource, vline, vcolumn, hlength⟩
      · exact carries_concat vsource vline vcolumn hname.symm
    · refine .inr ⟨.outOfRange field, hstop _, ?_⟩
      rw [originFault?_eq (.inl hlength), hfield]; rfl
  | [a, b, c, d] =>
    have hlength : s.values.length = 5 := by simp [hvalues]
    rcases place_cases h hvalues with
      ⟨source, line, column, esource, eline, ecolumn, vsource, vline, vcolumn, hnone⟩ |
      ⟨field, hfield, hstop⟩
    · simp [hvalues] at hname
      rcases advance_cases .nameIndex totals.name d with
        ⟨fname, name, ename, vname⟩ | ⟨fname, ename⟩
      · refine .inl ⟨some ⟨source, line, column, some name⟩, ⟨source, line, column, name⟩,
          ?_, ?_, ?_, ?_⟩
        · rw [readOrigin, esource, eline, ecolumn]
          show (do let name ← advance .nameIndex totals.name d; _) = _
          rw [ename]; rfl
        · simp [originFault?_eq (.inr hlength), hnone, hname, fname]
        · exact ⟨vsource, vline, vcolumn, hlength, vname.trans hname.symm⟩
        · exact carries_concat vsource vline vcolumn (vname.trans hname.symm)
      · refine .inr ⟨.outOfRange .nameIndex, ?_, ?_⟩
        · rw [readOrigin, esource, eline, ecolumn]
          show (do let name ← advance .nameIndex totals.name d; _) = _
          rw [ename]; rfl
        · simp [originFault?_eq (.inr hlength), hnone, hname, fname]
    · refine .inr ⟨.outOfRange field, hstop _, ?_⟩
      rw [originFault?_eq (.inr hlength), hfield]; rfl
  | _ :: _ :: _ :: _ :: _ :: _ => exact .inr ⟨.fieldCount, rfl, by simp [originFault?, hvalues]⟩

/-- Without fault the numbers are one, four or five and all totals fit. -/
theorem originFault?_eq_none_iff {earlier : List Segment} {s : Segment} :
    originFault? earlier s = none ↔ s.values.length ∈ [1, 4, 5] ∧
      ∀ field, field ≠ .generatedColumn → Fits (runningTotal field earlier s) := by
  -- The fields that are searched are all but the column.
  have hfields : (∀ field, field ≠ .generatedColumn → Fits (runningTotal field earlier s)) ↔
      ∀ field ∈ [.sourceIndex, .sourceLine, .sourceColumn, .nameIndex],
        Fits (runningTotal field earlier s) := by
    refine ⟨fun h field hfield => h field ?_, fun h field hne => h field ?_⟩
    · rintro rfl; simp at hfield
    · cases field <;> simp at hne ⊢
  rw [hfields, originFault?]
  split
  next h => simp [h]
  next h =>
    rw [Option.map_eq_none_iff, List.find?_eq_none]
    rw [Decidable.not_not] at h
    simp [h]

/-- A segment is sound exactly if it has no fault. -/
theorem fault?_eq_none_iff {earlier : List Segment} {s : Segment} :
    fault? earlier s = none ↔ IsSound earlier s := by
  constructor
  · intro h
    unfold fault? at h
    split at h
    next => cases h
    next values hvalues =>
      rw [Option.map_eq_none_iff, countFault?] at h
      split at h
      next => cases h
      next hcolumn =>
        obtain ⟨hcount, hfields⟩ := originFault?_eq_none_iff.mp h
        refine ⟨⟨values, hvalues⟩, hcount, fun field => ?_⟩
        by_cases hfield : field = .generatedColumn
        · rw [hfield]; exact Decidable.not_not.mp hcolumn
        · exact hfields field hfield
  · rintro ⟨⟨values, hvalues⟩, hcount, htotals⟩
    have horigin := originFault?_eq_none_iff.mpr ⟨hcount, fun field _ => htotals field⟩
    simp only [fault?, hvalues, Option.map_eq_none_iff]
    unfold countFault?
    rw [if_neg (Decidable.not_not.mpr (htotals .generatedColumn)), horigin]

/-- The numbers of a segment give their fault or its mapping. -/
theorem readValues_spec {earlier : List Segment} {totals : Totals} (h : Carries earlier totals)
    {s : Segment} {column : UInt32} {values : List Int32}
    (hcolumn : (column.toNat : Int) = sumAt 0 (earlier.filter (·.line = s.line)))
    (hvalues : s.values = values.map Int32.toInt) :
    (∃ m totals', readValues (UInt32.ofNat s.line) column totals values = .ok (m, totals') ∧
      countFault? earlier s = none ∧ Describes earlier s m ∧ Carries (earlier ++ [s]) totals') ∨
    ∃ fault, readValues (UInt32.ofNat s.line) column totals values = .error fault ∧
      countFault? earlier s = some fault := by
  have htotal : runningTotal .generatedColumn earlier s = column.toNat + s.values[0]?.getD 0 := by
    rw [runningTotal_generatedColumn, hcolumn]
  cases values with
  | nil =>
    -- Without any number the column stays where it is, so the count is what is wrong.
    simp [hvalues] at htotal
    refine .inr ⟨.fieldCount, rfl, ?_⟩
    simp [countFault?, originFault?, hvalues, htotal, fits_toNat]
  | cons delta values =>
    simp [hvalues] at htotal
    unfold countFault?
    rcases advance_cases .generatedColumn column delta with
      ⟨fcolumn, next, enext, vnext⟩ | ⟨fcolumn, ecolumn⟩
    · rw [htotal, if_neg (Decidable.not_not.mpr fcolumn), readValues_cons enext]
      rcases readOrigin_spec h hvalues with
        ⟨origin, totals', eorigin, hnone, hdescribes, hcarries⟩ | ⟨fault, eorigin, hsome⟩
      · refine .inl ⟨⟨UInt32.ofNat s.line, next, origin⟩, totals', ?_, hnone, ?_, hcarries⟩
        · rw [eorigin]; rfl
        · exact ⟨rfl, vnext.trans htotal.symm, hdescribes⟩
      · refine .inr ⟨fault, ?_, hsome⟩
        rw [eorigin]; rfl
    · rw [htotal, if_pos fcolumn, readValues, ecolumn]
      exact .inr ⟨_, rfl, rfl⟩

/-- The reader gives the mapping of a sound segment, with counters that carry it, and refuses any
other with its fault. -/
theorem readSegment_spec {earlier : List Segment} {totals : Totals} (h : Carries earlier totals)
    (s : Segment) {column : UInt32}
    (hcolumn : (column.toNat : Int) = sumAt 0 (earlier.filter (·.line = s.line))) :
    (∃ m totals', readSegment (UInt32.ofNat s.line) column totals s.text = .ok (m, totals') ∧
      IsSound earlier s ∧ Describes earlier s m ∧ Carries (earlier ++ [s]) totals') ∨
    ∃ fault, readSegment (UInt32.ofNat s.line) column totals s.text = .error fault ∧
      fault? earlier s = some fault := by
  -- Reader and fault make the same case distinctions, so soundness is told as no fault.
  rw [← fault?_eq_none_iff]
  unfold fault?
  cases hread : Vlq.read s.text with
  | error fault =>
    refine .inr ⟨vlqFault s.text fault, ?_, rfl⟩
    unfold readSegment
    rw [hread]; rfl
  | ok values =>
    rw [readSegment_of_read hread]
    have hvalues : s.values = values.map Int32.toInt := by rw [Segment.values, hread]
    rcases readValues_spec h hcolumn hvalues with
      ⟨m, totals', hvalue, hnone, hdescribes, hcarries⟩ | ⟨fault, hfault, hsome⟩
    · refine .inl ⟨m, totals', ?_, by rw [hnone]; rfl, hdescribes, hcarries⟩
      rw [hvalue]; rfl
    · refine .inr ⟨.segment (String.ofList s.text) fault, ?_, by rw [hsome]; rfl⟩
      rw [hfault]; rfl

end Retrace.Mappings
