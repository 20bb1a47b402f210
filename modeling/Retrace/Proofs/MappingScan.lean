import Mathlib.Data.List.Induction
import Retrace.Proofs.MappingTable

/-!
# Scanning mappings

A table answers by bisection what can also be found without it, by passing the mappings once in the
order in which they are given and keeping a candidate until another one stands at its column or
behind it (`scan?`). One step of the scan keeps the nearest of the mappings passed so far
(`Keeps.step`), and so does the whole scan (`keeps_scan?`).

It also answers what a table answers that is first narrowed to the line and then bisected by the
columns of that line (`findOnLine?_eq`). The mappings of a line stand together in it, in the order
of their columns (`toList_onLine`).
-/

namespace Retrace

namespace Mapping

/-- What is kept when a mapping is passed: a candidate takes the place of what has been kept so far,
unless its column is smaller. -/
def keep (line column : UInt32) (kept : Option Mapping) (m : Mapping) : Option Mapping :=
  if m.isCandidate line column && kept.all (·.generatedColumn ≤ m.generatedColumn) then some m
  else kept

/-- The mapping of a position by passing all mappings in the order in which they are given. -/
def scan? (line column : UInt32) (mappings : List Mapping) : Option Mapping :=
  mappings.foldl (keep line column) none

end Mapping

/-- What is kept of mappings: the nearest one, or nothing if none of them is a candidate. -/
def Keeps (mappings : List Mapping) (line column : UInt32) : Option Mapping → Prop
  | none => ∀ m ∈ mappings, m.isCandidate line column = false
  | some m => IsNearest mappings line column m

variable {mappings : List Mapping} {line column : UInt32} {kept : Option Mapping} {m : Mapping}

/-- Behind mappings without a greater column a candidate is the nearest. -/
theorem IsNearest.concat_new (hm : m.isCandidate line column = true)
    (hothers : ∀ x ∈ mappings, x.isCandidate line column = true →
      x.generatedColumn ≤ m.generatedColumn) : IsNearest (mappings ++ [m]) line column m where
  candidate := hm
  greatest x hx hcandidate := by
    rcases List.mem_append.mp hx with hx | hx
    · exact hothers x hx hcandidate
    · obtain rfl := List.mem_singleton.mp hx
      exact UInt32.le_refl _
  last := by
    have hat : m.isAt line m.generatedColumn = true :=
      Mapping.isAt_iff.mpr ⟨(Mapping.isCandidate_iff.mp hm).1, rfl⟩
    rw [List.filter_append, List.filter_cons, if_pos hat, List.filter_nil, List.getLast?_concat]

/-- The nearest mapping stays so when one is added that is no candidate or has a smaller column. -/
theorem IsNearest.concat_other {nearest : Mapping} (h : IsNearest mappings line column nearest)
    (hm : m.isCandidate line column = true → m.generatedColumn < nearest.generatedColumn) :
    IsNearest (mappings ++ [m]) line column nearest where
  candidate := h.candidate
  greatest x hx hcandidate := by
    rcases List.mem_append.mp hx with hx | hx
    · exact h.greatest x hx hcandidate
    · obtain rfl := List.mem_singleton.mp hx
      exact UInt32.le_of_lt (hm hcandidate)
  last := by
    -- At the column of the nearest mapping the added one would be a candidate.
    have hat : m.isAt line nearest.generatedColumn = false := by
      rw [← Bool.not_eq_true]
      intro hat
      obtain ⟨hline, hcolumn⟩ := Mapping.isAt_iff.mp hat
      have hle : m.generatedColumn ≤ column := by
        rw [hcolumn]
        exact (Mapping.isCandidate_iff.mp h.candidate).2
      have hlt := hm (Mapping.isCandidate_iff.mpr ⟨hline, hle⟩)
      rw [hcolumn] at hlt
      exact UInt32.lt_irrefl _ hlt
    rw [List.filter_append, List.filter_cons, hat, if_neg Bool.false_ne_true, List.filter_nil,
      List.append_nil]
    exact h.last

/-- One step keeps the nearest of the mappings passed so far. -/
theorem Keeps.step (h : Keeps mappings line column kept) :
    Keeps (mappings ++ [m]) line column (Mapping.keep line column kept m) := by
  unfold Mapping.keep
  cases hm : m.isCandidate line column with
  | false =>
    rw [Bool.false_and, if_neg Bool.false_ne_true]
    cases kept with
    | none =>
      intro x hx
      rcases List.mem_append.mp hx with hx | hx
      · exact h x hx
      · rw [List.mem_singleton.mp hx, hm]
    | some nearest =>
      have hnone : m.isCandidate line column ≠ true := by rw [hm]; exact Bool.false_ne_true
      exact IsNearest.concat_other h fun hcandidate => absurd hcandidate hnone
  | true =>
    rw [Bool.true_and]
    cases kept with
    | none =>
      rw [Option.all_none, if_pos rfl]
      refine IsNearest.concat_new hm fun x hx hcandidate => ?_
      have hnone := h x hx
      rw [hcandidate] at hnone
      cases hnone
    | some nearest =>
      rw [Option.all_some]
      by_cases hle : nearest.generatedColumn ≤ m.generatedColumn
      · rw [if_pos (decide_eq_true hle)]
        exact IsNearest.concat_new hm fun x hx hcandidate =>
          UInt32.le_trans (h.greatest x hx hcandidate) hle
      · rw [if_neg (by simpa using hle)]
        exact IsNearest.concat_other h fun _ => UInt32.not_le.mp hle

/-- A scan keeps the nearest of all mappings. -/
theorem keeps_scan? (mappings : List Mapping) (line column : UInt32) :
    Keeps mappings line column (Mapping.scan? line column mappings) := by
  induction mappings using List.reverseRecOn with
  | nil => exact List.forall_mem_nil _
  | append_singleton mappings m ih =>
    unfold Mapping.scan? at ih ⊢
    rw [List.foldl_append, List.foldl_cons, List.foldl_nil]
    exact ih.step

namespace MappingTable

/-- A table and a scan of the mappings that it is made of find the same. -/
theorem find?_ofList_eq_scan? (mappings : List Mapping) (line column : UInt32) :
    (ofList mappings).find? line column = Mapping.scan? line column mappings := by
  have hkeeps := keeps_scan? mappings line column
  cases hscan : Mapping.scan? line column mappings with
  | none =>
    rw [hscan] at hkeeps
    exact find?_ofList_eq_none_iff.mpr hkeeps
  | some m =>
    rw [hscan] at hkeeps
    exact find?_ofList_eq_some_iff.mpr hkeeps

/-! ### Narrowing to a line -/

/-- The mappings of a line: those behind the lines before it and in front of the lines after it. -/
def onLine (t : MappingTable) (line : UInt32) : Array Mapping :=
  t.entries.extract (partitionPoint t.entries (·.generatedLine < line))
    (partitionPoint t.entries (·.generatedLine ≤ line))

/-- The mapping of a position by narrowing the table to the line: of the mappings there the last one
at or before the column. -/
def findOnLine? (t : MappingTable) (line column : UInt32) : Option Mapping :=
  match partitionPoint (t.onLine line) (·.generatedColumn ≤ column) with
  | 0 => none
  | i + 1 => (t.onLine line)[i]?

/-- The lines of a table do not get smaller. -/
theorem pairwise_generatedLine (t : MappingTable) :
    t.entries.toList.Pairwise fun a b => a.generatedLine ≤ b.generatedLine := by
  refine t.sorted.imp fun hab => ?_
  rw [Mapping.inOrder, Mapping.isAtOrBefore_iff] at hab
  rw [UInt32.le_iff_toNat_le]
  omega

/-- The mappings of a line stand together, between the two partition points. -/
theorem toList_onLine (t : MappingTable) (line : UInt32) :
    (t.onLine line).toList = t.entries.toList.filter (·.generatedLine == line) := by
  have hbefore : t.entries.toList.Pairwise fun a b =>
      decide (b.generatedLine < line) = true → decide (a.generatedLine < line) = true := by
    refine t.pairwise_generatedLine.imp fun hab hb => ?_
    simp only [decide_eq_true_eq] at hb ⊢
    exact UInt32.lt_of_le_of_lt hab hb
  have hupTo : t.entries.toList.Pairwise fun a b =>
      decide (b.generatedLine ≤ line) = true → decide (a.generatedLine ≤ line) = true := by
    refine t.pairwise_generatedLine.imp fun hab hb => ?_
    simp only [decide_eq_true_eq] at hb ⊢
    exact UInt32.le_trans hab hb
  have htake := take_partitionPoint hbefore
  have hdrop := drop_partitionPoint hbefore
  have hlength : (t.entries.toList.filter (·.generatedLine < line)).length =
      partitionPoint t.entries (·.generatedLine < line) := by
    rw [← htake, List.length_take, Array.length_toList]
    exact Nat.min_eq_left (partitionPoint_le _ _)
  -- The mappings up to the line are those of the lines before it and then its own.
  have hsplit : t.entries.toList.filter (·.generatedLine ≤ line) =
      t.entries.toList.filter (·.generatedLine < line) ++
        t.entries.toList.filter (·.generatedLine == line) := by
    calc t.entries.toList.filter (·.generatedLine ≤ line)
        = (t.entries.toList.filter (·.generatedLine < line)).filter (·.generatedLine ≤ line) ++
            (t.entries.toList.filter fun m => !decide (m.generatedLine < line)).filter
              (·.generatedLine ≤ line) := by
          rw [← htake, ← hdrop, ← List.filter_append, List.take_append_drop]
      _ = _ := by
          rw [List.filter_filter, List.filter_filter]
          congr 1 <;> refine List.filter_congr fun m _ => ?_
          · rw [Bool.eq_iff_iff]
            simp only [Bool.and_eq_true, decide_eq_true_eq]
            exact ⟨And.right, fun hlt => ⟨UInt32.le_of_lt hlt, hlt⟩⟩
          · rw [Bool.eq_iff_iff]
            simp only [Bool.and_eq_true, Bool.not_eq_true', decide_eq_true_eq,
              decide_eq_false_iff_not, UInt32.not_lt, beq_iff_eq]
            exact ⟨fun h => UInt32.le_antisymm h.1 h.2, fun h => by simp [h]⟩
  rw [onLine, Array.toList_extract, List.extract_eq_take_drop, ← List.drop_take,
    take_partitionPoint hupTo, hsplit, List.drop_left' hlength]

/-- The columns of a line do not get smaller. -/
theorem pairwise_onLine (t : MappingTable) (line : UInt32) :
    (t.onLine line).toList.Pairwise fun a b => a.generatedColumn ≤ b.generatedColumn := by
  rw [toList_onLine, List.pairwise_filter]
  refine t.sorted.imp fun hab ha hb => ?_
  rw [beq_iff_eq] at ha hb
  rw [Mapping.inOrder, Mapping.isAtOrBefore_iff, ha, hb] at hab
  rw [UInt32.le_iff_toNat_le]
  omega

/-- Narrowed to the line, a table gives its last candidate. -/
theorem findOnLine?_eq_getLast? (t : MappingTable) (line column : UInt32) :
    t.findOnLine? line column = (t.entries.toList.filter (·.isCandidate line column)).getLast? := by
  have hcolumns : (t.onLine line).toList.Pairwise fun a b =>
      decide (b.generatedColumn ≤ column) = true → decide (a.generatedColumn ≤ column) = true := by
    refine (t.pairwise_onLine line).imp fun hab hb => ?_
    simp only [decide_eq_true_eq] at hb ⊢
    exact UInt32.le_trans hab hb
  have hcandidates : (t.onLine line).toList.filter (·.generatedColumn ≤ column) =
      t.entries.toList.filter (·.isCandidate line column) := by
    rw [toList_onLine, List.filter_filter]
    refine List.filter_congr fun m _ => ?_
    rw [Mapping.isCandidate, Bool.and_comm]
  rw [← hcandidates, getLast?_filter_eq hcolumns]
  rfl

/-- Narrowing a table to the line first makes no difference. -/
theorem findOnLine?_eq (t : MappingTable) (line column : UInt32) :
    t.findOnLine? line column = t.find? line column := by
  rw [findOnLine?_eq_getLast?, find?_eq]
  -- A candidate is a mapping at or before the position that is on the line.
  have hfilter : t.entries.toList.filter (·.isCandidate line column) =
      (t.entries.toList.filter (·.isAtOrBefore line column)).filter (·.generatedLine = line) := by
    rw [List.filter_filter]
    refine List.filter_congr fun m _ => ?_
    rw [Bool.eq_iff_iff, Bool.and_eq_true, decide_eq_true_eq, Mapping.isAtOrBefore_iff,
      Mapping.isCandidate_iff, UInt32.le_iff_toNat_le]
    constructor
    · rintro ⟨rfl, hle⟩
      exact ⟨rfl, .inr ⟨rfl, hle⟩⟩
    · rintro ⟨rfl, hlt | ⟨-, hle⟩⟩
      · exact absurd hlt (Nat.lt_irrefl _)
      · exact ⟨rfl, hle⟩
  rw [hfilter]
  have hsorted := t.sorted.filter (·.isAtOrBefore line column)
  have hbefore : ∀ m ∈ t.entries.toList.filter (·.isAtOrBefore line column),
      m.isAtOrBefore line column = true := fun m hm => (List.mem_filter.mp hm).2
  generalize t.entries.toList.filter (·.isAtOrBefore line column) = ms at hsorted hbefore ⊢
  rcases List.eq_nil_or_concat ms with rfl | ⟨front, last, rfl⟩
  · rfl
  rw [List.concat_eq_append] at hsorted hbefore ⊢
  rw [List.getLast?_concat, List.filter_append]
  by_cases hline : last.generatedLine = line
  · simp [hline, Option.filter_some]
  · -- The last one stands on an earlier line, and so do all others.
    have hnone : front.filter (·.generatedLine = line) = [] := by
      rw [List.filter_eq_nil_iff]
      intro m hm hm'
      have hab := hsorted.rel_of_mem_append hm (List.mem_singleton_self last)
      have hlast := hbefore last (by simp)
      rw [Mapping.inOrder, Mapping.isAtOrBefore_iff, of_decide_eq_true hm'] at hab
      rw [Mapping.isAtOrBefore_iff] at hlast
      rw [← UInt32.toNat_inj] at hline
      omega
    simp [hnone, hline, Option.filter_some]

/-- The nearest mapping by its place among the others: those before it that are on the line and at
or before the column do not stand behind it, and those after it stand in front of it. -/
theorem isNearest_iff {mappings : List Mapping} {line column : UInt32} {m : Mapping} :
    IsNearest mappings line column m ↔ ∃ before after, mappings = before ++ m :: after ∧
      m.isCandidate line column = true ∧
      (∀ x ∈ before, x.isCandidate line column = true → x.generatedColumn ≤ m.generatedColumn) ∧
      ∀ x ∈ after, x.isCandidate line column = true → x.generatedColumn < m.generatedColumn := by
  constructor
  · intro h
    -- Behind the last mapping with its column no other one has this column.
    obtain ⟨front, hfront⟩ := List.getLast?_eq_some_iff.mp h.last
    obtain ⟨head, tail, rfl, -, htail⟩ := List.filter_eq_append_iff.mp hfront
    obtain ⟨between, after, rfl, -, -, hafter⟩ := List.filter_eq_cons_iff.mp htail
    rw [List.filter_eq_nil_iff] at hafter
    refine ⟨head ++ between, after, (List.append_assoc _ _ _).symm, h.candidate, ?_, ?_⟩
    · intro x hx
      refine h.greatest x ?_
      rw [← List.append_assoc]
      exact List.mem_append_left _ hx
    · intro x hx hcandidate
      have hle := h.greatest x (by simp [hx]) hcandidate
      have hne : x.generatedColumn ≠ m.generatedColumn := fun heq =>
        hafter x hx (Mapping.isAt_iff.mpr ⟨(Mapping.isCandidate_iff.mp hcandidate).1, heq⟩)
      exact UInt32.lt_of_le_of_ne hle hne
  · rintro ⟨before, after, rfl, hm, hbefore, hafter⟩
    have hline := (Mapping.isCandidate_iff.mp hm).1
    have hself : m.isAt line m.generatedColumn = true := Mapping.isAt_iff.mpr ⟨hline, rfl⟩
    have hnone : after.filter (·.isAt line m.generatedColumn) = [] := by
      rw [List.filter_eq_nil_iff]
      intro x hx hat
      obtain ⟨hxline, hxcolumn⟩ := Mapping.isAt_iff.mp hat
      have hle : x.generatedColumn ≤ column := by
        rw [hxcolumn]
        exact (Mapping.isCandidate_iff.mp hm).2
      have hlt := hafter x hx (Mapping.isCandidate_iff.mpr ⟨hxline, hle⟩)
      rw [hxcolumn] at hlt
      exact UInt32.lt_irrefl _ hlt
    refine ⟨hm, fun x hx hcandidate => ?_, ?_⟩
    · rcases List.mem_append.mp hx with hx | hx
      · exact hbefore x hx hcandidate
      · rcases List.mem_cons.mp hx with rfl | hx
        · exact UInt32.le_refl _
        · exact UInt32.le_of_lt (hafter x hx hcandidate)
    · rw [List.filter_append, List.filter_cons, if_pos hself, hnone, List.getLast?_concat]

/-- A lookup by bisection is a scan of the mappings in the order in which they are given, and also
the bisection of the lines and then of the columns of the line. It finds nothing exactly where no
mapping is on the line at or before the column. Otherwise it finds of these the one with the
greatest column, and of several with this column the last. -/
theorem find?_ofList_spec (mappings : List Mapping) (line column : UInt32) :
    let found := (ofList mappings).find? line column
    let isOn (m : Mapping) := m.generatedLine = line ∧ m.generatedColumn ≤ column
    found = Mapping.scan? line column mappings ∧ found = (ofList mappings).findOnLine? line column ∧
      (found = none ↔ ∀ m ∈ mappings, ¬ isOn m) ∧
      ∀ m, found = some m ↔ ∃ before after, mappings = before ++ m :: after ∧ isOn m ∧
        (∀ x ∈ before, isOn x → x.generatedColumn ≤ m.generatedColumn) ∧
        ∀ x ∈ after, isOn x → x.generatedColumn < m.generatedColumn := by
  intro found isOn
  have hisOn (m : Mapping) : isOn m ↔ m.isCandidate line column = true :=
    Mapping.isCandidate_iff.symm
  refine ⟨find?_ofList_eq_scan? mappings line column, (findOnLine?_eq _ line column).symm, ?_, ?_⟩
  · simp only [hisOn, Bool.not_eq_true]
    exact find?_ofList_eq_none_iff
  · intro m
    simp only [hisOn]
    exact find?_ofList_eq_some_iff.trans isNearest_iff

/-- Mappings out of order, two of them at one position: the later one of the two is found. -/
example :
    let mappings := [⟨0, 20, none⟩, ⟨0, 10, none⟩, ⟨1, 0, none⟩, ⟨0, 10, some ⟨0, 4, 2, none⟩⟩]
    (ofList mappings).find? 0 19 = some ⟨0, 10, some ⟨0, 4, 2, none⟩⟩ ∧
      (ofList mappings).find? 0 9 = none := by
  cbv

end MappingTable

end Retrace
