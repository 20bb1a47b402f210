import Retrace.Proofs.MappingTable
import Retrace.Proofs.Mappings.Reading

/-!
# Lines of mappings

A segment stands behind a number of semicolons, and its mapping on a line of the generated text. The
reader counts the semicolons in natural numbers and keeps the count in 32 bits, so the line is the
count up to multiples of `2 ^ 32` (`Describes.toNat_generatedLine`). The lines of a whole text are
kept apart exactly if no segment stands behind `2 ^ 32` semicolons or more (`keepsLines_iff`).

With that many semicolons the count starts over. A text of two segments so far apart has both on one
line, where a lookup finds the second of them.
-/

namespace Retrace.Mappings

/-- Segments and the mappings read from them stand on the same lines. -/
structure KeepsLines (segments : List Segment) (mappings : List Mapping) : Prop where
  /-- A mapping stands on the line whose number is that of the semicolons before its segment. -/
  line : ∀ (i : Nat) s m, segments[i]? = some s → mappings[i]? = some m →
    m.generatedLine.toNat = s.line
  /-- Behind different numbers of semicolons mappings stand on different lines. -/
  apart : ∀ (i j : Nat) s t m n, segments[i]? = some s → mappings[i]? = some m →
    segments[j]? = some t → mappings[j]? = some n → s.line ≠ t.line →
      m.generatedLine ≠ n.generatedLine
  /-- A lookup on a line finds no mapping of another line's segment. -/
  found : ∀ (line column : UInt32) (i : Nat) s m,
    (MappingTable.ofList mappings).find? line column = some m →
      segments[i]? = some s → mappings[i]? = some m → s.line = line.toNat

/-- The line of a mapping is the number of semicolons before its segment, counted in 32 bits. -/
theorem Describes.toNat_generatedLine {earlier : List Segment} {s : Segment} {m : Mapping}
    (h : Describes earlier s m) : m.generatedLine.toNat = s.line % 2 ^ 32 := by
  rw [h.line, UInt32.toNat_ofNat']

/-- What a lookup finds stands on the line that was asked for. -/
theorem generatedLine_of_find? {mappings : List Mapping} {line column : UInt32} {m : Mapping}
    (h : (MappingTable.ofList mappings).find? line column = some m) : m.generatedLine = line :=
  (Mapping.isCandidate_iff.mp (MappingTable.find?_ofList_eq_some_iff.mp h).candidate).1

/-- Lines are kept exactly if no segment stands behind `2 ^ 32` semicolons or more. -/
theorem keepsLines_iff {segments : List Segment} {mappings : List Mapping}
    (hlength : mappings.length = segments.length)
    (hline : ∀ (i : Nat) s m, segments[i]? = some s → mappings[i]? = some m →
      m.generatedLine.toNat = s.line % 2 ^ 32) :
    KeepsLines segments mappings ↔ ∀ s ∈ segments, s.line < 2 ^ 32 := by
  constructor
  · intro h s hs
    obtain ⟨i, hi, rfl⟩ := List.getElem_of_mem hs
    have hm : mappings[i]? = some mappings[i] := List.getElem?_eq_getElem (by omega)
    rw [← h.line i _ _ (List.getElem?_eq_getElem hi) hm]
    exact UInt32.toNat_lt _
  · intro h
    have hexact : ∀ (i : Nat) s m, segments[i]? = some s → mappings[i]? = some m →
        m.generatedLine.toNat = s.line := by
      intro i s m hs hm
      rw [hline i s m hs hm, Nat.mod_eq_of_lt (h s (List.mem_of_getElem? hs))]
    refine ⟨hexact, fun i j s t m n hs hm ht hn hne heq => hne ?_,
      fun line column i s m hfind hs hm => ?_⟩
    · rw [← hexact i s m hs hm, ← hexact j t n ht hn, heq]
    · rw [← hexact i s m hs hm, generatedLine_of_find? hfind]

/-- In a text that is read the line of each mapping is the number of semicolons before its segment
up to multiples of `2 ^ 32`, and what a lookup finds is the mapping of such a segment. So the lines
are kept exactly if no segment stands behind `2 ^ 32` semicolons or more, and they are in every text
with fewer semicolons. -/
theorem read_line_spec (text : String) (table : MappingTable) (h : read text = .ok table) :
    ∃ mappings : List Mapping, table = .ofList mappings ∧
      mappings.length = (segments text.toList).length ∧
      (∀ (i : Nat) s m, (segments text.toList)[i]? = some s → mappings[i]? = some m →
        m.generatedLine.toNat = s.line % 2 ^ 32) ∧
      (∀ line column m, table.find? line column = some m → ∃ (i : Nat) (s : Segment),
        (segments text.toList)[i]? = some s ∧ mappings[i]? = some m ∧
          s.line % 2 ^ 32 = line.toNat) ∧
      (KeepsLines (segments text.toList) mappings ↔
        ∀ s ∈ segments text.toList, s.line < 2 ^ 32) ∧
      (text.toList.count ';' < 2 ^ 32 → KeepsLines (segments text.toList) mappings) := by
  have hreads := readList_reads text.toList
  unfold read at h
  cases hread : readList text.toList with
  | error fault =>
    rw [hread] at h
    cases h
  | ok mappings =>
    rw [hread] at h hreads
    cases h
    obtain ⟨-, hlength, hall⟩ := hreads.of_ok
    have hline : ∀ (i : Nat) s m, (segments text.toList)[i]? = some s → mappings[i]? = some m →
        m.generatedLine.toNat = s.line % 2 ^ 32 :=
      fun i s m hs hm => (hall i s m hs hm).toNat_generatedLine
    have hkeeps := keepsLines_iff hlength hline
    refine ⟨mappings, rfl, hlength, hline, fun line column m hfind => ?_, hkeeps, fun hcount => ?_⟩
    · obtain ⟨i, hi, rfl⟩ :=
        List.getElem_of_mem (MappingTable.find?_ofList_eq_some_iff.mp hfind).mem
      have hs : (segments text.toList)[i]? = some (segments text.toList)[i] :=
        List.getElem?_eq_getElem (by omega)
      refine ⟨i, _, hs, List.getElem?_eq_getElem hi, ?_⟩
      rw [← hline i _ _ hs (List.getElem?_eq_getElem hi), generatedLine_of_find? hfind]
    · exact hkeeps.mpr fun s hs => Nat.lt_of_le_of_lt (line_le_count hs) hcount

/-- Three lines, of which the second has no segment. -/
theorem read_line_spec_three_lines :
    ∃ mappings : List Mapping, read "A;;C,C" = .ok (.ofList mappings) ∧
      segments "A;;C,C".toList = [⟨0, ['A']⟩, ⟨2, ['C']⟩, ⟨2, ['C']⟩] ∧
      KeepsLines (segments "A;;C,C".toList) mappings := by
  have hread : ∃ table, read "A;;C,C" = .ok table := ⟨_, rfl⟩
  obtain ⟨table, htable⟩ := hread
  obtain ⟨mappings, rfl, -, -, -, -, hkeeps⟩ := read_line_spec "A;;C,C" table htable
  exact ⟨mappings, htable, by decide, hkeeps (by decide)⟩

/-! ### Segments far apart -/

/-- Semicolons in a row part empty lines. -/
theorem splitOn_replicate_append (n : Nat) (rest : List Char) :
    (List.replicate n ';' ++ rest).splitOn ';' = List.replicate n [] ++ rest.splitOn ';' := by
  induction n with
  | zero => rfl
  | succ n ih =>
    rw [List.replicate_succ, List.cons_append, List.splitOn_cons_eq_if_modifyHead,
      if_pos (beq_self_eq_true ';'), ih]
    rfl

/-- Empty lines have no segments, but count. -/
theorem placed_replicate_append (n : Nat) (lines : List (List Char)) (index : Nat) :
    placed index (List.replicate n [] ++ lines) = placed (index + n) lines := by
  induction n generalizing index with
  | zero => rfl
  | succ n ih =>
    rw [List.replicate_succ, List.cons_append, placed, ih, Nat.add_right_comm, Nat.add_assoc]
    rfl

/-- Empty lines give no mappings, but count. -/
theorem readLines_replicate_append (n : Nat) (lines : List (List Char)) (index : Nat)
    (totals : Totals) :
    readLines index totals (List.replicate n [] ++ lines) =
      readLines (index + n) totals lines := by
  induction n generalizing index with
  | zero => rfl
  | succ n ih =>
    have hempty : readSegments (UInt32.ofNat index) 0 totals (segmentsOf []) = .ok ([], totals) :=
      rfl
    rw [List.replicate_succ, List.cons_append, readLines_cons hempty, ih, Nat.add_right_comm,
      Nat.add_assoc]
    cases readLines (index + (n + 1)) totals lines <;> rfl

/-- Two segments with semicolons between them. -/
def farApart (n : Nat) : List Char :=
  "AAAA".toList ++ ';' :: (List.replicate n ';' ++ "AACA".toList)

/-- The lines of two segments with semicolons between them. -/
theorem splitOn_farApart (n : Nat) :
    (farApart n).splitOn ';' = "AAAA".toList :: (List.replicate n [] ++ ["AACA".toList]) := by
  have hfirst : "AAAA".toList.splitOn ';' = ["AAAA".toList] := by decide
  have hsecond : "AACA".toList.splitOn ';' = ["AACA".toList] := by decide
  unfold farApart
  rw [List.splitOn_eq_splitOnP, List.splitOnP_append_cons _ _ rfl, ← List.splitOn_eq_splitOnP,
    ← List.splitOn_eq_splitOnP, splitOn_replicate_append, hfirst, hsecond]
  rfl

/-- The second of two segments stands behind all semicolons between them. -/
theorem segments_farApart (n : Nat) :
    segments (farApart n) = [⟨0, "AAAA".toList⟩, ⟨n + 1, "AACA".toList⟩] := by
  rw [segments_eq, splitOn_farApart, placed, placed_replicate_append, Nat.zero_add, Nat.add_comm]
  rfl

/-- The mapping of the second of two segments is on the line that 32 bits count. -/
theorem readList_farApart (n : Nat) :
    readList (farApart n) = .ok [⟨0, 0, some ⟨0, 0, 0, none⟩⟩,
      ⟨UInt32.ofNat (n + 1), 0, some ⟨0, 1, 0, none⟩⟩] := by
  have hfirst : readSegments (UInt32.ofNat 0) 0 .zero (segmentsOf "AAAA".toList) =
      .ok ([⟨0, 0, some ⟨0, 0, 0, none⟩⟩], .zero) := rfl
  have hsecond : readSegments (UInt32.ofNat (n + 1)) 0 .zero (segmentsOf "AACA".toList) =
      .ok ([⟨UInt32.ofNat (n + 1), 0, some ⟨0, 1, 0, none⟩⟩], ⟨0, 1, 0, 0⟩) := rfl
  unfold readList
  rw [splitOn_farApart, readLines_cons hfirst, readLines_replicate_append, Nat.zero_add,
    Nat.add_comm, readLines_cons hsecond]
  rfl

/-- Behind `2 ^ 32` semicolons the count of the lines starts over: the mappings of two segments so
far apart are on one line, and a lookup on the line of the first finds the second. -/
theorem not_keepsLines_of_two_pow :
    ∃ mappings : List Mapping,
      read (String.ofList (farApart (2 ^ 32 - 1))) = .ok (.ofList mappings) ∧
      segments (farApart (2 ^ 32 - 1)) = [⟨0, "AAAA".toList⟩, ⟨2 ^ 32, "AACA".toList⟩] ∧
      mappings = [⟨0, 0, some ⟨0, 0, 0, none⟩⟩, ⟨0, 0, some ⟨0, 1, 0, none⟩⟩] ∧
      (MappingTable.ofList mappings).find? 0 0 = some ⟨0, 0, some ⟨0, 1, 0, none⟩⟩ ∧
      ¬ KeepsLines (segments (farApart (2 ^ 32 - 1))) mappings := by
  have hcount : 2 ^ 32 - 1 + 1 = 2 ^ 32 := by decide
  have hread := readList_farApart (2 ^ 32 - 1)
  have hsegments := segments_farApart (2 ^ 32 - 1)
  rw [hcount] at hread hsegments
  have hnearest : IsNearest [⟨0, 0, some ⟨0, 0, 0, none⟩⟩, ⟨0, 0, some ⟨0, 1, 0, none⟩⟩] 0 0
      ⟨0, 0, some ⟨0, 1, 0, none⟩⟩ := ⟨rfl, by decide, rfl⟩
  refine ⟨_, ?_, hsegments, rfl, MappingTable.find?_ofList_eq_some_iff.mpr hnearest,
    fun hkeeps => ?_⟩
  · rw [read, String.toList_ofList, hread]
    rfl
  · have hline := hkeeps.line 1 ⟨2 ^ 32, "AACA".toList⟩ ⟨0, 0, some ⟨0, 1, 0, none⟩⟩
      (by rw [hsegments]; rfl) rfl
    cases hline

end Retrace.Mappings
