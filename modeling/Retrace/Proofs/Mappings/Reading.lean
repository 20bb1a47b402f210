import Mathlib.Algebra.Ring.Nat
import Retrace.Proofs.Mappings.Totals

/-!
# What reading a mappings text gives

The reader walks over lines and their segments in two nested loops. `Reads` tells the run over
segments in a row, without loops and counters: each is judged by itself and by those before it, and
the first one with a fault ends the run. `readLines_reads` shows that the loops make this run, with
`readSegment_spec` as their step: the origin's counters carry all segments met so far, and the
column those of the line, of which there are none when a line begins.

With `segments_eq` this tells the run over a whole text: `readList_reads`.
-/

namespace Retrace.Mappings

/-- Every segment is sound behind those before it. -/
def AllSound (segments : List Segment) : Prop :=
  ∀ earlier s later, segments = earlier ++ s :: later → IsSound earlier s

/-- The result of reading segments behind `earlier` ones. -/
inductive Reads : List Segment → List Segment → Except MapFault (List Mapping) → Prop where
  /-- No segment is left. -/
  | done (earlier : List Segment) : Reads earlier [] (.ok [])
  /-- A segment has a fault; those behind it do not count. -/
  | stop {earlier rest : List Segment} {s : Segment} {fault : MapFault}
      (hfault : fault? earlier s = some fault) : Reads earlier (s :: rest) (.error fault)
  /-- A segment is sound and gives a mapping. -/
  | step {earlier rest : List Segment} {s : Segment} {m : Mapping}
      {result : Except MapFault (List Mapping)} (hsound : IsSound earlier s)
      (hdescribes : Describes earlier s m) (hrest : Reads (earlier ++ [s]) rest result) :
      Reads earlier (s :: rest) (result.map (m :: ·))

/-! ### The loops -/

/-- The inner loop reads the segments of a line, whatever segments follow. -/
theorem readSegments_reads (line : Nat) (texts : List (List Char)) :
    ∀ (earlier : List Segment) (column : UInt32) (totals : Totals), Carries earlier totals →
      (column.toNat : Int) = sumAt 0 (earlier.filter (·.line = line)) →
      (∃ mappings totals',
        readSegments (UInt32.ofNat line) column totals texts = .ok (mappings, totals') ∧
        Carries (earlier ++ texts.map (⟨line, ·⟩)) totals' ∧
        ∀ rest result, Reads (earlier ++ texts.map (⟨line, ·⟩)) rest result →
          Reads earlier (texts.map (⟨line, ·⟩) ++ rest) (result.map (mappings ++ ·))) ∨
      ∃ fault, readSegments (UInt32.ofNat line) column totals texts = .error fault ∧
        ∀ rest, Reads earlier (texts.map (⟨line, ·⟩) ++ rest) (.error fault) := by
  induction texts with
  | nil =>
    intro earlier column totals hcarries _
    refine .inl ⟨[], totals, rfl, by simpa using hcarries, fun rest result h => ?_⟩
    cases result <;> simpa [Except.map] using h
  | cons text texts ih =>
    intro earlier column totals hcarries hcolumn
    rcases readSegment_spec hcarries ⟨line, text⟩ hcolumn with
      ⟨m, totals₁, hread, hsound, hdescribes, hcarries₁⟩ | ⟨fault, hread, hfault⟩
    · -- The mapping's column is the sum over the line so far, this segment included.
      have hcolumn₁ : (m.generatedColumn.toNat : Int) =
          sumAt 0 ((earlier ++ [(⟨line, text⟩ : Segment)]).filter (·.line = line)) :=
        hdescribes.column
      rcases ih _ m.generatedColumn totals₁ hcarries₁ hcolumn₁ with
        ⟨mappings, totals₂, hreads, hcarries₂, hrest⟩ | ⟨fault, hreads, hrest⟩
      · refine .inl ⟨m :: mappings, totals₂, ?_, by simpa using hcarries₂, fun rest result h => ?_⟩
        · rw [readSegments_cons hread, hreads]; rfl
        · have := Reads.step hsound hdescribes (hrest rest result (by simpa using h))
          cases result <;> simpa [Except.map] using this
      · refine .inr ⟨fault, ?_, fun rest => .step hsound hdescribes (hrest rest)⟩
        rw [readSegments_cons hread, hreads]; rfl
    · refine .inr ⟨fault, ?_, fun rest => .stop hfault⟩
      rw [readSegments, hread]; rfl

/-- The outer loop reads the segments of all lines. -/
theorem readLines_reads (lines : List (List Char)) :
    ∀ (index : Nat) (earlier : List Segment) (totals : Totals), Carries earlier totals →
      (∀ s ∈ earlier, s.line < index) →
      Reads earlier (placed index lines) (readLines index totals lines) := by
  induction lines with
  | nil => intro index earlier totals _ _; exact .done earlier
  | cons line lines ih =>
    intro index earlier totals hcarries hlines
    -- No segment so far stands on the line that begins.
    have hcolumn : ((0 : UInt32).toNat : Int) = sumAt 0 (earlier.filter (·.line = index)) := by
      have hnone : earlier.filter (·.line = index) = [] := by
        rw [List.filter_eq_nil_iff]
        intro s hs hline
        have := hlines s hs
        simp at hline
        omega
      rw [hnone]; rfl
    rcases readSegments_reads index (segmentsOf line) earlier 0 totals hcarries hcolumn with
      ⟨mappings, totals₁, hreads, hcarries₁, hrest⟩ | ⟨fault, hreads, hrest⟩
    · have hlines₁ : ∀ s ∈ earlier ++ (segmentsOf line).map (⟨index, ·⟩), s.line < index + 1 := by
        intro s hs
        rcases List.mem_append.mp hs with hs | hs
        · have := hlines s hs
          omega
        · obtain ⟨text, -, rfl⟩ := List.mem_map.mp hs
          exact Nat.lt_succ_self index
      -- What follows is read from the counters that carry this line too.
      have h := hrest _ _ (ih (index + 1) _ totals₁ hcarries₁ hlines₁)
      rw [readLines_cons hreads]
      exact h
    · rw [readLines, hreads]
      exact hrest _

/-- Reading a text reads its segments. -/
theorem readList_reads (text : List Char) : Reads [] (segments text) (readList text) := by
  rw [segments_eq]
  exact readLines_reads _ 0 [] .zero ⟨rfl, rfl, rfl, rfl⟩ (by simp)

/-! ### The run as a whole -/

/-- A run that ends well has met sound segments only, and one mapping for each. -/
theorem Reads.of_ok {earlier rest : List Segment} {mappings : List Mapping}
    (h : Reads earlier rest (.ok mappings)) :
    (∀ between s later, rest = between ++ s :: later → IsSound (earlier ++ between) s) ∧
      mappings.length = rest.length ∧
      ∀ (i : Nat) s m, rest[i]? = some s → mappings[i]? = some m →
        Describes (earlier ++ rest.take i) s m := by
  -- The induction is on the run, with its result free.
  generalize hresult : Except.ok mappings = result at h
  induction h generalizing mappings with
  | done earlier =>
    cases hresult
    exact ⟨by simp, rfl, by simp⟩
  | stop hfault => cases hresult
  | @step earlier rest s m result hsound hdescribes hrest ih =>
    cases result with
    | error fault => cases hresult
    | ok mappings' =>
      cases hresult
      obtain ⟨hsounds, hlength, hall⟩ := ih rfl
      refine ⟨?_, by rw [List.length_cons, hlength, List.length_cons], ?_⟩
      · -- A segment is the first one or one of the rest.
        intro between t later hrest
        cases between with
        | nil =>
          obtain ⟨rfl, rfl⟩ := List.cons.inj hrest
          simpa using hsound
        | cons _ between =>
          obtain ⟨rfl, rfl⟩ := List.cons.inj hrest
          simpa using hsounds between t later rfl
      · intro i t m' ht hm'
        cases i with
        | zero =>
          cases ht
          cases hm'
          simpa using hdescribes
        | succ i => simpa using hall i t m' ht hm'

/-- A run that ends badly has met sound segments only, up to the one with the fault. -/
theorem Reads.of_error {earlier rest : List Segment} {fault : MapFault}
    (h : Reads earlier rest (.error fault)) :
    ∃ between s later, rest = between ++ s :: later ∧
      (∀ before t after, between = before ++ t :: after → IsSound (earlier ++ before) t) ∧
      fault? (earlier ++ between) s = some fault := by
  generalize hresult : Except.error fault = result at h
  induction h with
  | done earlier => cases hresult
  | @stop earlier rest s fault' hfault =>
    cases hresult
    exact ⟨[], s, rest, rfl, by simp, by simpa using hfault⟩
  | @step earlier rest s m result hsound hdescribes hrest ih =>
    cases result with
    | ok mappings => cases hresult
    | error fault' =>
      cases hresult
      -- The fault lies in the rest, and this segment is one more sound one before it.
      obtain ⟨between, t, later, rfl, hsounds, hfault⟩ := ih rfl
      refine ⟨s :: between, t, later, rfl, ?_, by simpa using hfault⟩
      intro before u after hbetween
      cases before with
      | nil =>
        obtain ⟨rfl, rfl⟩ := List.cons.inj hbetween
        simpa using hsound
      | cons _ before =>
        obtain ⟨rfl, rfl⟩ := List.cons.inj hbetween
        simpa using hsounds before u after rfl

/-- Each mapping that is read is that of a segment. -/
theorem exists_segment_of_mem {text : List Char} {mappings : List Mapping} {m : Mapping}
    (h : readList text = .ok mappings) (hm : m ∈ mappings) :
    ∃ earlier s later, segments text = earlier ++ s :: later ∧ Describes earlier s m := by
  have hreads := readList_reads text
  rw [h] at hreads
  obtain ⟨-, hlength, hall⟩ := hreads.of_ok
  obtain ⟨i, hi, rfl⟩ := List.getElem_of_mem hm
  have hbound : i < (segments text).length := by omega
  refine ⟨(segments text).take i, (segments text)[i], (segments text).drop (i + 1), ?_, ?_⟩
  · rw [List.getElem_cons_drop, List.take_append_drop]
  · simpa using hall i _ _ (List.getElem?_eq_getElem hbound) (List.getElem?_eq_getElem hi)

/-- A segment of a text stands behind no more semicolons than the text has. -/
theorem line_le_count {text : List Char} {s : Segment} (h : s ∈ segments text) :
    s.line ≤ text.count ';' := by
  obtain ⟨place, -, hplace⟩ := List.mem_filterMap.mp h
  unfold segmentAt? at hplace
  split at hplace
  next =>
    cases hplace
    exact (List.take_sublist place text).count_le ';'
  next => cases hplace

/-- A text of at most `2^32` lines is read exactly if each of its segments is sound. Then the table
holds one mapping for each segment, with the number of its line and the totals at it. Otherwise the
fault is that of the first segment that is not sound. -/
theorem read_segments_spec (text : String) (h : text.toList.count ';' < 2 ^ 32) :
    ((∃ table, read text = .ok table) ↔ AllSound (segments text.toList)) ∧
    (∀ table, read text = .ok table → ∃ mappings : List Mapping,
      table = .ofList mappings ∧ table.entries.toList.Perm mappings ∧
      mappings.length = (segments text.toList).length ∧
      ∀ (i : Nat) s m, (segments text.toList)[i]? = some s → mappings[i]? = some m →
        m.generatedLine.toNat = s.line ∧ Describes ((segments text.toList).take i) s m) ∧
    ∀ fault, read text = .error fault → ∃ earlier s later,
      segments text.toList = earlier ++ s :: later ∧ AllSound earlier ∧
      fault? earlier s = some fault := by
  have hreads := readList_reads text.toList
  unfold read
  cases hread : readList text.toList with
  | ok mappings =>
    rw [hread] at hreads
    obtain ⟨hsounds, hlength, hall⟩ := hreads.of_ok
    refine ⟨⟨fun _ => hsounds, fun _ => ⟨_, rfl⟩⟩, ?_, ?_⟩
    · rintro table htable
      cases htable
      refine ⟨mappings, rfl, List.mergeSort_perm _ _, hlength, fun i s m hs hm => ?_⟩
      have hdescribes := hall i s m hs hm
      have hline : s.line < 2 ^ 32 :=
        Nat.lt_of_le_of_lt (line_le_count (List.mem_of_getElem? hs)) h
      exact ⟨by rw [hdescribes.line, UInt32.toNat_ofNat_of_lt' hline], hdescribes⟩
    · rintro fault hfault
      cases hfault
  | error fault =>
    rw [hread] at hreads
    obtain ⟨earlier, s, later, hsplit, hsounds, hfault⟩ := hreads.of_error
    refine ⟨⟨?_, fun hsound => ?_⟩, ?_, ?_⟩
    · rintro ⟨table, htable⟩
      cases htable
    · -- The segment with the fault would be sound.
      have hnone := fault?_eq_none_iff.mpr (hsound earlier s later hsplit)
      rw [List.nil_append, hnone] at hfault
      cases hfault
    · rintro table htable
      cases htable
    · rintro fault' hfault'
      cases hfault'
      exact ⟨earlier, s, later, hsplit, hsounds, hfault⟩

/-- A text of two lines that is read, and one whose second segment counts below zero. -/
theorem read_segments_spec_two_lines :
    AllSound (segments ";AAAA,UAAAA".toList) ∧
    ∃ earlier s later, segments "A;D".toList = earlier ++ s :: later ∧ AllSound earlier ∧
      fault? earlier s = some (.segment "D" (.outOfRange .generatedColumn)) := by
  refine ⟨?_, ?_⟩
  · have hread : ∃ table, read ";AAAA,UAAAA" = .ok table := ⟨_, rfl⟩
    exact (read_segments_spec ";AAAA,UAAAA" (by decide)).1.mp hread
  · have hread : read "A;D" = .error (.segment "D" (.outOfRange .generatedColumn)) := by rfl
    exact (read_segments_spec "A;D" (by decide)).2.2 _ hread

end Retrace.Mappings
