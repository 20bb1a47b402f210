import Retrace.Proofs.Bisection
import Retrace.SourceMap.Table

/-!
# Looking mappings up

A table keeps the mappings of one position in the order in which they were given (`filter_ofList`).
A lookup by bisection in it finds what a scan of the mappings as given would: of those on the line
and at or before the column one with the greatest column, and of several such the last
(`find?_ofList_eq_some_iff`).
-/

namespace Retrace

namespace Mapping

/-- Does the mapping stand at a position of the generated text? -/
def isAt (m : Mapping) (line column : UInt32) : Bool :=
  m.generatedLine == line && m.generatedColumn == column

/-- Does the mapping stand on a line of the generated text, at or before a column? -/
def isCandidate (m : Mapping) (line column : UInt32) : Bool :=
  m.generatedLine == line && m.generatedColumn ≤ column

/-- Standing at a position is to have its line and column. -/
theorem isAt_iff {m : Mapping} {line column : UInt32} :
    m.isAt line column = true ↔ m.generatedLine = line ∧ m.generatedColumn = column := by
  simp [isAt]

/-- A candidate has the line, and no greater column. -/
theorem isCandidate_iff {m : Mapping} {line column : UInt32} :
    m.isCandidate line column = true ↔ m.generatedLine = line ∧ m.generatedColumn ≤ column := by
  simp [isCandidate]

/-- The order of positions in natural numbers. -/
theorem isAtOrBefore_iff {m : Mapping} {line column : UInt32} :
    m.isAtOrBefore line column = true ↔ m.generatedLine.toNat < line.toNat ∨
      m.generatedLine.toNat = line.toNat ∧ m.generatedColumn.toNat ≤ column.toNat := by
  simp only [isAtOrBefore, Bool.or_eq_true, Bool.and_eq_true, decide_eq_true_eq, beq_iff_eq,
    UInt32.lt_iff_toNat_lt, UInt32.le_iff_toNat_le, ← UInt32.toNat_inj]

/-- A mapping in front of one at or before a position is itself at or before it. -/
theorem isAtOrBefore_of_inOrder {a b : Mapping} {line column : UInt32} (hab : a.inOrder b = true)
    (hb : b.isAtOrBefore line column = true) : a.isAtOrBefore line column = true := by
  rw [inOrder, isAtOrBefore_iff] at hab
  rw [isAtOrBefore_iff] at hb ⊢
  omega

/-- A candidate stands at or before the position. -/
theorem isAtOrBefore_of_isCandidate {m : Mapping} {line column : UInt32}
    (h : m.isCandidate line column = true) : m.isAtOrBefore line column = true := by
  obtain ⟨hline, hcolumn⟩ := isCandidate_iff.mp h
  rw [isAtOrBefore_iff, hline]
  exact .inr ⟨rfl, UInt32.le_iff_toNat_le.mp hcolumn⟩

end Mapping

/-- Of the mappings on a line and at or before a column one has the greatest column, and it is the
last of those with this column. -/
structure IsNearest (mappings : List Mapping) (line column : UInt32) (m : Mapping) : Prop where
  /-- It is on the line and at or before the column. -/
  candidate : m.isCandidate line column = true
  /-- No other one stands behind it in the generated text. -/
  greatest : ∀ x ∈ mappings, x.isCandidate line column = true →
    x.generatedColumn ≤ m.generatedColumn
  /-- No other one with its column was given later. -/
  last : (mappings.filter (·.isAt line m.generatedColumn)).getLast? = some m

/-- The nearest mapping is one of those given. -/
theorem IsNearest.mem {mappings : List Mapping} {line column : UInt32} {m : Mapping}
    (h : IsNearest mappings line column m) : m ∈ mappings :=
  (List.mem_filter.mp (List.mem_of_getLast? h.last)).1

namespace MappingTable

/-- The mappings of one position keep the order in which they are given. -/
theorem filter_ofList (mappings : List Mapping) (line column : UInt32) :
    (ofList mappings).entries.toList.filter (·.isAt line column) =
      mappings.filter (·.isAt line column) := by
  have hsame : (mappings.filter (·.isAt line column)).Pairwise
      (fun a b => a.inOrder b = true) := by
    rw [List.pairwise_filter]
    refine List.pairwise_of_forall fun a b ha hb => ?_
    rw [Mapping.isAt_iff] at ha hb
    rw [Mapping.inOrder, Mapping.isAtOrBefore_iff, ha.1, ha.2, hb.1, hb.2]
    omega
  -- Sorting is stable: what is in order as given stays in this order.
  have hsublist : (mappings.filter (·.isAt line column)).Sublist
      (mappings.mergeSort Mapping.inOrder) :=
    List.sublist_mergeSort Mapping.inOrder_trans Mapping.inOrder_total hsame List.filter_sublist
  have hfiltered := hsublist.filter (·.isAt line column)
  rw [List.filter_filter] at hfiltered
  simp only [Bool.and_self] at hfiltered
  -- Sorting also gives nothing new, so the sublist is all there is.
  have hlength := ((List.mergeSort_perm mappings Mapping.inOrder).filter
    (·.isAt line column)).length_eq
  exact (hfiltered.eq_of_length hlength.symm).symm

/-- A lookup finds the last mapping at or before the position, if that is on the line. -/
theorem find?_eq (t : MappingTable) (line column : UInt32) :
    t.find? line column =
      ((t.entries.toList.filter (·.isAtOrBefore line column)).getLast?).filter
        (·.generatedLine = line) := by
  have hp : t.entries.toList.Pairwise fun a b =>
      b.isAtOrBefore line column = true → a.isAtOrBefore line column = true :=
    t.sorted.imp fun hab hb => Mapping.isAtOrBefore_of_inOrder hab hb
  rw [getLast?_filter_eq hp]
  unfold find?
  cases partitionPoint t.entries (·.isAtOrBefore line column) <;> rfl

/-- The last mapping at or before a position stands behind all others there. -/
theorem inOrder_of_getLast? {mappings : List Mapping} {line column : UInt32} {last : Mapping}
    (hlast : ((ofList mappings).entries.toList.filter (·.isAtOrBefore line column)).getLast? =
      some last) :
    last.isAtOrBefore line column = true ∧
      ∀ x ∈ mappings, x.isAtOrBefore line column = true → x.inOrder last = true := by
  obtain ⟨front, hfront⟩ := List.getLast?_eq_some_iff.mp hlast
  refine ⟨(List.mem_filter.mp (List.mem_of_getLast? hlast)).2, fun x hx hbefore => ?_⟩
  have hmem : x ∈ (ofList mappings).entries.toList.filter (·.isAtOrBefore line column) :=
    List.mem_filter.mpr ⟨List.mem_mergeSort.mpr hx, hbefore⟩
  have hsorted := (ofList mappings).sorted.filter (·.isAtOrBefore line column)
  rw [hfront] at hsorted hmem
  rcases List.mem_append.mp hmem with hmem | hmem
  · exact hsorted.rel_of_mem_append hmem (List.mem_singleton_self last)
  · obtain rfl := List.mem_singleton.mp hmem
    simpa using Mapping.inOrder_total x x

/-- What a lookup finds is the nearest mapping. -/
theorem isNearest_of_find? {mappings : List Mapping} {line column : UInt32} {m : Mapping}
    (h : (ofList mappings).find? line column = some m) : IsNearest mappings line column m := by
  rw [find?_eq, Option.filter_eq_some_iff] at h
  obtain ⟨hlast, hline⟩ := h
  replace hline : m.generatedLine = line := by simpa using hline
  obtain ⟨hbefore, hothers⟩ := inOrder_of_getLast? hlast
  rw [Mapping.isAtOrBefore_iff, hline] at hbefore
  refine ⟨?_, ?_, ?_⟩
  · rw [Mapping.isCandidate_iff, UInt32.le_iff_toNat_le]
    exact ⟨hline, by omega⟩
  · intro x hx hcandidate
    have hinOrder := hothers x hx (Mapping.isAtOrBefore_of_isCandidate hcandidate)
    rw [Mapping.inOrder, Mapping.isAtOrBefore_iff, hline,
      (Mapping.isCandidate_iff.mp hcandidate).1] at hinOrder
    rw [UInt32.le_iff_toNat_le]
    omega
  · -- All mappings with the column of `m` are among those at or before the position.
    have hsub : ∀ x ∈ (ofList mappings).entries.toList,
        x.isAt line m.generatedColumn = true → x.isAtOrBefore line column = true := by
      intro x _ hat
      obtain ⟨hxline, hxcolumn⟩ := Mapping.isAt_iff.mp hat
      rw [Mapping.isAtOrBefore_iff, hxline, hxcolumn]
      omega
    obtain ⟨front, hfront⟩ := List.getLast?_eq_some_iff.mp hlast
    have hfilter : (ofList mappings).entries.toList.filter (·.isAt line m.generatedColumn) =
        (front ++ [m]).filter (·.isAt line m.generatedColumn) := by
      rw [← hfront, List.filter_filter]
      refine List.filter_congr fun x hx => ?_
      cases hat : x.isAt line m.generatedColumn with
      | false => rfl
      | true => rw [hsub x hx hat]; rfl
    have hself : m.isAt line m.generatedColumn = true := Mapping.isAt_iff.mpr ⟨hline, rfl⟩
    rw [← filter_ofList, hfilter, List.filter_append, List.filter_cons, if_pos hself,
      List.filter_nil, List.getLast?_concat]

/-- A lookup finds nothing only if no mapping is on the line at or before the column. -/
theorem not_isCandidate_of_find?_eq_none {mappings : List Mapping} {line column : UInt32}
    (h : (ofList mappings).find? line column = none) :
    ∀ m ∈ mappings, m.isCandidate line column = false := by
  intro m hm
  rw [← Bool.not_eq_true]
  intro hcandidate
  have hbefore := Mapping.isAtOrBefore_of_isCandidate hcandidate
  -- The last mapping at or before the position stands between this one and the position.
  cases hlast : ((ofList mappings).entries.toList.filter
      (·.isAtOrBefore line column)).getLast? with
  | none =>
    rw [List.getLast?_eq_none_iff, List.filter_eq_nil_iff] at hlast
    exact hlast m (List.mem_mergeSort.mpr hm) hbefore
  | some last =>
    obtain ⟨hlastBefore, hothers⟩ := inOrder_of_getLast? hlast
    have hinOrder := hothers m hm hbefore
    rw [find?_eq, hlast, Option.filter_eq_none_iff] at h
    have hother : last.generatedLine ≠ line := by simpa using h last rfl
    rw [Mapping.isAtOrBefore_iff] at hlastBefore
    rw [Mapping.inOrder, Mapping.isAtOrBefore_iff, (Mapping.isCandidate_iff.mp hcandidate).1]
      at hinOrder
    rw [ne_eq, ← UInt32.toNat_inj] at hother
    omega

/-- A table finds exactly the nearest mapping of those it was made of. -/
theorem find?_ofList_eq_some_iff {mappings : List Mapping} {line column : UInt32} {m : Mapping} :
    (ofList mappings).find? line column = some m ↔ IsNearest mappings line column m := by
  refine ⟨isNearest_of_find?, fun hm => ?_⟩
  cases hfind : (ofList mappings).find? line column with
  | none =>
    have := not_isCandidate_of_find?_eq_none hfind m hm.mem
    rw [hm.candidate] at this
    cases this
  | some m' =>
    -- Both have the greatest column and are the last with it.
    have hm' := isNearest_of_find? hfind
    have hcolumn : m'.generatedColumn = m.generatedColumn := by
      have h₁ := UInt32.le_iff_toNat_le.mp (hm.greatest m' hm'.mem hm'.candidate)
      have h₂ := UInt32.le_iff_toNat_le.mp (hm'.greatest m hm.mem hm.candidate)
      rw [← UInt32.toNat_inj]
      omega
    rw [← hm'.last, hcolumn, hm.last]

/-- A table finds nothing exactly where none of its mappings is on the line at or before the
column. -/
theorem find?_ofList_eq_none_iff {mappings : List Mapping} {line column : UInt32} :
    (ofList mappings).find? line column = none ↔
      ∀ m ∈ mappings, m.isCandidate line column = false := by
  refine ⟨not_isCandidate_of_find?_eq_none, fun h => ?_⟩
  cases hfind : (ofList mappings).find? line column with
  | none => rfl
  | some m =>
    have hm := isNearest_of_find? hfind
    have := h m hm.mem
    rw [hm.candidate] at this
    cases this

end MappingTable

end Retrace
