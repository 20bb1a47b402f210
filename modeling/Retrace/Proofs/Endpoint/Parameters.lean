import Retrace.Endpoint.Parameters

/-!
# Parameters of a frame

The parameters of a query are read pair by pair. A pair sets the parameter of its name if there is
such a parameter (`add_of_not_mem`) and it has not been set (`add_of_some`, `exists_add_of_none`).
So a query is read unless it gives one of the parameters twice, and then each parameter has the
value that the query gives it (`ofQuery_spec`). Whatever else is wrong with parameters is found when
a request is made of them (`request_error_cases`).
-/

namespace Retrace.FrameParameters

variable {parameters : FrameParameters} {name value : String}

/-- The names of the parameters. -/
def names : List String := ["bundledFile", "file", "line", "column"]

/-- The parameter of a name. -/
def get? (parameters : FrameParameters) (name : String) : Option String :=
  if name = "bundledFile" then parameters.bundledFile
  else if name = "file" then parameters.file
  else if name = "line" then parameters.line
  else if name = "column" then parameters.column
  else none

/-- A query gives a parameter twice, or more often. -/
def Repeats (query : List Char) (name : String) : Prop :=
  name ∈ names ∧ 2 ≤ ((Form.pairs query).map Prod.fst).count name

/-- The names of the parameters are four. -/
theorem mem_names_iff : name ∈ names ↔
    name = "bundledFile" ∨ name = "file" ∨ name = "line" ∨ name = "column" := by
  simp [names]

/-- A pair of another name changes nothing. -/
theorem add_of_not_mem (h : name ∉ names) : parameters.add (name, value) = .ok parameters := by
  simp only [mem_names_iff, not_or] at h
  obtain ⟨hbundled, hfile, hline, hcolumn⟩ := h
  unfold add
  dsimp only
  rw [if_neg hbundled, if_neg hfile, if_neg hline, if_neg hcolumn]
  rfl

/-- A pair does not set a parameter that has been set. -/
theorem add_of_some {earlier : String} (h : name ∈ names)
    (hset : parameters.get? name = some earlier) :
    parameters.add (name, value) = .error (.repeated name) := by
  unfold get? at hset
  unfold add
  dsimp only
  rcases mem_names_iff.mp h with rfl | rfl | rfl | rfl
  all_goals
    simp only [String.reduceEq, ↓reduceIte] at hset ⊢
    rw [hset]
    rfl

/-- A pair sets the parameter of its name, and no other one. -/
theorem exists_add_of_none (value : String) (h : name ∈ names)
    (hset : parameters.get? name = none) :
    ∃ further, parameters.add (name, value) = .ok further ∧
      ∀ other, further.get? other = if other = name then some value else parameters.get? other := by
  unfold get? at hset
  unfold add
  dsimp only
  rcases mem_names_iff.mp h with rfl | rfl | rfl | rfl
  all_goals
    simp only [String.reduceEq, ↓reduceIte] at hset ⊢
    rw [hset]
    refine ⟨_, rfl, fun other => ?_⟩
    unfold get?
    grind

/-- How often a parameter is given: by pairs, and by what has been set before. -/
def given (parameters : FrameParameters) (pairs : List (String × String)) (name : String) : Nat :=
  (parameters.get? name).toList.length + (pairs.map Prod.fst).count name

/-- A pair of another name does not count. -/
theorem given_cons_of_ne {pairs : List (String × String)} {other : String} (h : other ≠ name) :
    given parameters ((name, value) :: pairs) other = given parameters pairs other := by
  unfold given
  rw [List.map_cons, List.count_cons_of_ne h.symm]

/-- It does not matter whether a parameter is given by a pair or has been set before. -/
theorem given_eq_of_add {further : FrameParameters} {pairs : List (String × String)}
    (hset : parameters.get? name = none)
    (hfurther : ∀ other, further.get? other =
      if other = name then some value else parameters.get? other) (other : String) :
    given further pairs other = given parameters ((name, value) :: pairs) other := by
  by_cases hother : other = name
  · rw [hother]
    unfold given
    rw [hfurther, if_pos rfl, hset, List.map_cons, List.count_cons_self]
    exact Nat.add_comm 1 _ |>.trans (Nat.zero_add _).symm
  · rw [given_cons_of_ne hother]
    unfold given
    rw [hfurther, if_neg hother]

/-- What comes of reading pairs: none of the parameters is given twice, and each has the value that
has been set before or that the pairs give it, or one that is given twice is complained of. -/
def IsRead (parameters : FrameParameters) (pairs : List (String × String))
    (result : Except RequestFault FrameParameters) : Prop :=
  (∃ final, result = .ok final ∧ (∀ name ∈ names, given parameters pairs name ≤ 1) ∧
    ∀ name ∈ names, final.get? name = (parameters.get? name).or (pairs.lookup name)) ∨
  ∃ name ∈ names, result = .error (.repeated name) ∧ 2 ≤ given parameters pairs name

/-- Pairs behind one that does not count are read as they are. -/
theorem IsRead.cons_of_not_mem {pairs : List (String × String)}
    {result : Except RequestFault FrameParameters} (h : IsRead parameters pairs result)
    (hname : name ∉ names) : IsRead parameters ((name, value) :: pairs) result := by
  have hne {other : String} (hother : other ∈ names) : other ≠ name := by
    rintro rfl
    exact hname hother
  rcases h with ⟨final, hresult, honce, hfinal⟩ | ⟨other, hother, hresult, htwice⟩
  · refine .inl ⟨final, hresult, fun other hother => ?_, fun other hother => ?_⟩
    · rw [given_cons_of_ne (hne hother)]
      exact honce other hother
    · rw [hfinal other hother, List.lookup_cons, beq_eq_false_iff_ne.mpr (hne hother)]
  · refine .inr ⟨other, hother, hresult, ?_⟩
    rw [given_cons_of_ne (hne hother)]
    exact htwice

/-- Pairs behind one that sets a parameter are read with this parameter set. -/
theorem IsRead.cons_of_none {further : FrameParameters} {pairs : List (String × String)}
    {result : Except RequestFault FrameParameters} (h : IsRead further pairs result)
    (hset : parameters.get? name = none)
    (hfurther : ∀ other, further.get? other =
      if other = name then some value else parameters.get? other) :
    IsRead parameters ((name, value) :: pairs) result := by
  have hgiven (other : String) :
      given further pairs other = given parameters ((name, value) :: pairs) other :=
    given_eq_of_add hset hfurther other
  rcases h with ⟨final, hresult, honce, hfinal⟩ | ⟨other, hother, hresult, htwice⟩
  · refine .inl ⟨final, hresult, fun other hother => hgiven other ▸ honce other hother, ?_⟩
    intro other hother
    rw [hfinal other hother, hfurther, List.lookup_cons]
    split
    next h => rw [h, hset, beq_self_eq_true]; rfl
    next h => rw [beq_eq_false_iff_ne.mpr h]
  · exact .inr ⟨other, hother, hresult, hgiven other ▸ htwice⟩

/-- Pairs are read one by one. -/
theorem isRead_foldlM_add (parameters : FrameParameters) (pairs : List (String × String)) :
    IsRead parameters pairs (pairs.foldlM add parameters) := by
  induction pairs generalizing parameters with
  | nil =>
    refine .inl ⟨parameters, rfl, fun name _ => ?_, fun name _ => Option.or_none.symm⟩
    unfold given
    cases parameters.get? name <;> simp
  | cons pair pairs ih =>
    obtain ⟨name, value⟩ := pair
    rw [List.foldlM_cons]
    by_cases hname : name ∈ names
    · cases hset : parameters.get? name with
      | some earlier =>
        -- The name occurs among the pairs, and the parameter has been set before.
        have htwice : 2 ≤ given parameters ((name, value) :: pairs) name := by
          unfold given
          rw [hset, List.map_cons, List.count_cons_self]
          show 2 ≤ 1 + (_ + 1)
          omega
        rw [add_of_some hname hset]
        exact .inr ⟨name, hname, rfl, htwice⟩
      | none =>
        obtain ⟨further, hadd, hfurther⟩ := exists_add_of_none value hname hset
        rw [hadd]
        exact (ih further).cons_of_none hset hfurther
    · rw [add_of_not_mem hname]
      exact (ih parameters).cons_of_not_mem hname

/-- A query is read if it gives no parameter twice, and then each parameter has the value that the
query gives it. Otherwise one that is given twice is complained of. -/
theorem ofQuery_spec (query : List Char) :
    (∃ parameters, ofQuery query = .ok parameters ∧ (∀ name, ¬ Repeats query name) ∧
      ∀ name ∈ names, parameters.get? name = (Form.pairs query).lookup name) ∨
    ∃ name, ofQuery query = .error (.repeated name) ∧ Repeats query name := by
  have hget (name : String) : get? {} name = none := by simp [get?]
  have hgiven (name : String) :
      given {} (Form.pairs query) name = ((Form.pairs query).map Prod.fst).count name := by
    rw [given, hget]
    exact Nat.zero_add _
  rcases isRead_foldlM_add {} (Form.pairs query) with
    ⟨parameters, hfold, honce, hvalue⟩ | ⟨name, hname, hfold, htwice⟩
  · refine .inl ⟨parameters, hfold, fun name hrepeats => ?_, fun name hname => ?_⟩
    · have hle := honce name hrepeats.1
      rw [hgiven] at hle
      have := hrepeats.2
      omega
    · rw [hvalue name hname, hget]
      rfl
  · rw [hgiven] at htwice
    exact .inr ⟨name, hfold, hname, htwice⟩

/-- What else is wrong with the parameters of a frame: some are missing, or one is no number. -/
theorem request_error_cases {fault : RequestFault} (h : parameters.request = .error fault) :
    (∃ missing, fault = .missing missing) ∨ ∃ name value, fault = .invalid name value := by
  have hcoordinate {name value : String} {fault : RequestFault}
      (h : coordinate name value = .error fault) : fault = .invalid name value := by
    unfold coordinate at h
    split at h
    next => cases h
    next => cases h; rfl
  unfold request at h
  dsimp only at h
  split at h
  next file line column _ _ _ =>
    cases hline : coordinate "line" line with
    | error fault =>
      rw [hline] at h
      cases h
      exact .inr ⟨_, _, hcoordinate hline⟩
    | ok _ =>
      rw [hline] at h
      cases hcolumn : coordinate "column" column with
      | error fault =>
        rw [hcolumn] at h
        cases h
        exact .inr ⟨_, _, hcoordinate hcolumn⟩
      | ok _ =>
        rw [hcolumn] at h
        cases h
  next => cases h; exact .inl ⟨_, rfl⟩

end Retrace.FrameParameters
