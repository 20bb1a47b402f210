import Mathlib.Data.List.Perm.Basic
import Retrace.Proofs.Endpoint.Agreement

/-!
# Requests made of parameters

What is made of the parameters of a frame is told by three questions in turn: which of them are
missing, whether the line is a number, and whether the column is one. A relation puts the questions
together without the function (`Makes`), and the two agree (`request_eq_iff`): what the relation
allows is what is made of parameters (`Makes.request_eq`), and it allows something of all of them
(`exists_makes`).

All that is missing is named at once, whatever else is wrong: the names are the part of a list of
three that `Lacks` tells (`mem_missingNames_iff`), in the order of this list. A number is told by the
text that is left without blanks (`coordinate_eq_ok_iff`).
-/

namespace Retrace.FrameParameters

/-- A parameter has a value, which is not empty. -/
def IsGiven (parameter : Option String) (value : String) : Prop :=
  parameter = some value ∧ value ≠ ""

/-- A parameter is not there, or it is empty. -/
def IsMissing (parameter : Option String) : Prop :=
  parameter = none ∨ parameter = some ""

/-- The file of a frame has the longer name. It has the shorter one where there is none of the
longer. -/
def IsFile (parameters : FrameParameters) (file : String) : Prop :=
  IsGiven parameters.bundledFile file ∨
    IsMissing parameters.bundledFile ∧ IsGiven parameters.file file

/-- Parameters lack something that a request needs, which has this name. -/
inductive Lacks (parameters : FrameParameters) : String → Prop where
  /-- The file is missing under both of its names. -/
  | file (hbundled : IsMissing parameters.bundledFile) (hfile : IsMissing parameters.file) :
      Lacks parameters "file"
  /-- The line is missing. -/
  | line (hline : IsMissing parameters.line) : Lacks parameters "line"
  /-- The column is missing. -/
  | column (hcolumn : IsMissing parameters.column) : Lacks parameters "column"

/-- A text states a number of 32 bits: without the blanks at both ends it is a run of digits, in
front of which a plus sign may stand. -/
def States (text : String) (value : UInt32) : Prop :=
  ∃ trimmed digits, Text.IsTrim text.toList trimmed ∧
    (trimmed = digits ∨ trimmed = '+' :: digits) ∧ Frame.IsCoordinate digits value

/-- What is made of parameters. -/
inductive Makes (parameters : FrameParameters) : Except RequestFault FrameRequest → Prop where
  /-- If something is missing, all that is missing is named in order, whatever the numbers are. -/
  | missing {names : List String} (hne : names ≠ [])
      (horder : names.Sublist ["file", "line", "column"])
      (hnames : ∀ name, name ∈ names ↔ parameters.Lacks name) :
      Makes parameters (.error (.missing names))
  /-- If nothing is missing and the line is no number, its text is told, blanks and all. -/
  | line {file line column : String} (hfile : parameters.IsFile file)
      (hline : IsGiven parameters.line line) (hcolumn : IsGiven parameters.column column)
      (hno : ∀ value, ¬ States line value) : Makes parameters (.error (.invalid "line" line))
  /-- If the line is a number and the column is none, the text of the column is told. -/
  | column {file line column : String} {number : UInt32} (hfile : parameters.IsFile file)
      (hline : IsGiven parameters.line line) (hcolumn : IsGiven parameters.column column)
      (hnumber : States line number) (hno : ∀ value, ¬ States column value) :
      Makes parameters (.error (.invalid "column" column))
  /-- Otherwise there is a request, with the file as it is and both numbers. -/
  | request {file line column : String} {number number' : UInt32} (hfile : parameters.IsFile file)
      (hline : IsGiven parameters.line line) (hcolumn : IsGiven parameters.column column)
      (hnumber : States line number) (hnumber' : States column number') :
      Makes parameters (.ok ⟨file, number, number'⟩)

variable {parameters : FrameParameters} {parameter : Option String} {value text : String}

/-! ### Values -/

/-- A value that is given is found. -/
theorem given?_eq_some_iff : given? parameter = some value ↔ IsGiven parameter value := by
  unfold given? IsGiven
  rw [Option.filter_eq_some_iff]
  simp

/-- Nothing is found where a parameter is missing. -/
theorem given?_eq_none_iff : given? parameter = none ↔ IsMissing parameter := by
  unfold given? IsMissing
  cases parameter <;> simp

/-- A file is found under one of its names. -/
theorem file_eq_some_iff :
    (given? parameters.bundledFile).or (given? parameters.file) = some value ↔
      parameters.IsFile value := by
  rw [Option.or_eq_some_iff, given?_eq_some_iff, given?_eq_none_iff, given?_eq_some_iff]
  rfl

/-- No file is found where both names are missing. -/
theorem file_eq_none_iff :
    (given? parameters.bundledFile).or (given? parameters.file) = none ↔
      IsMissing parameters.bundledFile ∧ IsMissing parameters.file := by
  rw [Option.or_eq_none_iff, given?_eq_none_iff, given?_eq_none_iff]

/-- A number is read from a text that states it. -/
theorem coordinate_eq_ok_iff {name : String} {number : UInt32} :
    coordinate name text = .ok number ↔ States text number := by
  have hread : coordinate name text = .ok number ↔
      Decimal.signed? UInt32.size (Text.trim text.toList) = some number.toNat := by
    unfold coordinate
    split
    next n hn =>
      have hlt : n < UInt32.size := by
        obtain ⟨_, -, hdigits⟩ := Decimal.signed?_eq_some_iff.mp hn
        exact (Decimal.digits?_eq_some_iff.mp hdigits).2.2.2
      rw [hn, Except.ok.injEq, Option.some.injEq, ← UInt32.toNat_inj,
        UInt32.toNat_ofNat_of_lt' hlt]
    next hnone => simp [hnone]
  rw [hread, Decimal.signed?_eq_some_iff]
  unfold States
  simp only [Text.isTrim_iff, exists_and_left, exists_eq_left,
    ← Frame.digits?_eq_some_iff_isCoordinate]
  rfl

/-- Any other text is told with the name of its parameter. -/
theorem coordinate_eq_error (name : String) (h : ∀ number, ¬ States text number) :
    coordinate name text = .error (.invalid name text) := by
  cases hread : coordinate name text with
  | ok number => exact absurd (coordinate_eq_ok_iff.mp hread) (h number)
  | error fault =>
    unfold coordinate at hread
    split at hread
    next => cases hread
    next => exact hread.symm

/-! ### What is missing -/

/-- The names of what is missing are told in order. -/
theorem missingNames_sublist (file line column : Option String) :
    (missingNames file line column).Sublist ["file", "line", "column"] := by
  cases file <;> cases line <;> cases column <;> simp [missingNames]

/-- Exactly the names of what is missing are told. -/
theorem mem_missingNames_iff {name : String} :
    name ∈ missingNames ((given? parameters.bundledFile).or (given? parameters.file))
        (given? parameters.line) (given? parameters.column) ↔ parameters.Lacks name := by
  have hlacks : parameters.Lacks name ↔
      name = "file" ∧ IsMissing parameters.bundledFile ∧ IsMissing parameters.file ∨
        name = "line" ∧ IsMissing parameters.line ∨
        name = "column" ∧ IsMissing parameters.column := by
    constructor
    · rintro (⟨hbundled, hfile⟩ | hline | hcolumn)
      · exact .inl ⟨rfl, hbundled, hfile⟩
      · exact .inr (.inl ⟨rfl, hline⟩)
      · exact .inr (.inr ⟨rfl, hcolumn⟩)
    · rintro (⟨rfl, hbundled, hfile⟩ | ⟨rfl, hline⟩ | ⟨rfl, hcolumn⟩)
      · exact .file hbundled hfile
      · exact .line hline
      · exact .column hcolumn
  rw [hlacks, ← file_eq_none_iff, ← given?_eq_none_iff, ← given?_eq_none_iff]
  unfold missingNames
  rw [List.mem_filterMap]
  simp only [List.mem_cons, List.not_mem_nil, or_false, exists_eq_or_imp, exists_eq_left,
    Option.isNone_iff_eq_none, Option.ite_none_right_eq_some, Option.some.injEq]
  simp only [and_comm, eq_comm]

/-! ### Requests -/

/-- Parameters of which all are given lack nothing. -/
theorem not_lacks {file line column : String} (hfile : parameters.IsFile file)
    (hline : IsGiven parameters.line line) (hcolumn : IsGiven parameters.column column)
    (name : String) : ¬ parameters.Lacks name := by
  have hbundled := file_eq_some_iff.mpr hfile
  rintro (⟨hmissing, hmissing'⟩ | hmissing | hmissing)
  · cases hbundled.symm.trans (file_eq_none_iff.mpr ⟨hmissing, hmissing'⟩)
  · cases (given?_eq_some_iff.mpr hline).symm.trans (given?_eq_none_iff.mpr hmissing)
  · cases (given?_eq_some_iff.mpr hcolumn).symm.trans (given?_eq_none_iff.mpr hmissing)

/-- What is made of parameters of which all are given is decided by the two numbers. -/
theorem request_of_given {file line column : String} (hfile : parameters.IsFile file)
    (hline : IsGiven parameters.line line) (hcolumn : IsGiven parameters.column column) :
    parameters.request = do
      let number ← coordinate "line" line
      let number' ← coordinate "column" column
      return ⟨file, number, number'⟩ := by
  unfold request
  dsimp only
  rw [file_eq_some_iff.mpr hfile, given?_eq_some_iff.mpr hline, given?_eq_some_iff.mpr hcolumn]

/-- Parameters that lack something are refused with the names of what is missing. -/
theorem request_of_lacks {name : String} (h : parameters.Lacks name) :
    parameters.request = .error (.missing (missingNames
      ((given? parameters.bundledFile).or (given? parameters.file))
      (given? parameters.line) (given? parameters.column))) := by
  unfold request
  dsimp only
  split
  next file line column hfile hline hcolumn =>
    exact absurd h (not_lacks (file_eq_some_iff.mp hfile) (given?_eq_some_iff.mp hline)
      (given?_eq_some_iff.mp hcolumn) name)
  next => rfl

/-- Parameters of which nothing is lacking are given. -/
theorem exists_given (h : ∀ name, ¬ parameters.Lacks name) :
    ∃ file line column, parameters.IsFile file ∧ IsGiven parameters.line line ∧
      IsGiven parameters.column column := by
  have hfile : ¬ (given? parameters.bundledFile).or (given? parameters.file) = none :=
    fun hnone => h "file" (.file (file_eq_none_iff.mp hnone).1 (file_eq_none_iff.mp hnone).2)
  have hline : ¬ given? parameters.line = none :=
    fun hnone => h "line" (.line (given?_eq_none_iff.mp hnone))
  have hcolumn : ¬ given? parameters.column = none :=
    fun hnone => h "column" (.column (given?_eq_none_iff.mp hnone))
  obtain ⟨file, hfile⟩ := Option.ne_none_iff_exists'.mp hfile
  obtain ⟨line, hline⟩ := Option.ne_none_iff_exists'.mp hline
  obtain ⟨column, hcolumn⟩ := Option.ne_none_iff_exists'.mp hcolumn
  exact ⟨file, line, column, file_eq_some_iff.mp hfile, given?_eq_some_iff.mp hline,
    given?_eq_some_iff.mp hcolumn⟩

/-- What the relation allows is what is made of parameters. -/
theorem Makes.request_eq {result : Except RequestFault FrameRequest}
    (h : parameters.Makes result) : parameters.request = result := by
  cases h with
  | @missing names hne horder hnames =>
    obtain ⟨name, hname⟩ := List.exists_mem_of_ne_nil names hne
    rw [request_of_lacks ((hnames name).mp hname)]
    -- Two parts of the same list are the same, when it has no element twice.
    have hnodup : ["file", "line", "column"].Nodup := by decide
    have horder' := missingNames_sublist
      ((given? parameters.bundledFile).or (given? parameters.file))
      (given? parameters.line) (given? parameters.column)
    have hperm := (List.perm_ext_iff_of_nodup (horder'.nodup hnodup) (horder.nodup hnodup)).mpr
      fun name => mem_missingNames_iff.trans (hnames name).symm
    rw [(hnodup.perm_iff_eq_of_sublist horder' horder).mp hperm]
  | line hfile hline hcolumn hno =>
    rw [request_of_given hfile hline hcolumn, coordinate_eq_error "line" hno]
    rfl
  | column hfile hline hcolumn hnumber hno =>
    rw [request_of_given hfile hline hcolumn, coordinate_eq_ok_iff.mpr hnumber,
      coordinate_eq_error "column" hno]
    rfl
  | request hfile hline hcolumn hnumber hnumber' =>
    rw [request_of_given hfile hline hcolumn, coordinate_eq_ok_iff.mpr hnumber,
      coordinate_eq_ok_iff.mpr hnumber']
    rfl

/-- The relation allows something of all parameters. -/
theorem exists_makes (parameters : FrameParameters) : ∃ result, parameters.Makes result := by
  by_cases hlacks : ∃ name, parameters.Lacks name
  · obtain ⟨name, hname⟩ := hlacks
    exact ⟨_, .missing (List.ne_nil_of_mem (mem_missingNames_iff.mpr hname))
      (missingNames_sublist _ _ _) fun _ => mem_missingNames_iff⟩
  · obtain ⟨file, line, column, hfile, hline, hcolumn⟩ := exists_given (not_exists.mp hlacks)
    by_cases hnumber : ∃ number, States line number
    · obtain ⟨number, hnumber⟩ := hnumber
      by_cases hnumber' : ∃ number', States column number'
      · obtain ⟨number', hnumber'⟩ := hnumber'
        exact ⟨_, .request hfile hline hcolumn hnumber hnumber'⟩
      · exact ⟨_, .column hfile hline hcolumn hnumber (not_exists.mp hnumber')⟩
    · exact ⟨_, .line hfile hline hcolumn (not_exists.mp hnumber)⟩

/-- What is made of parameters is what the relation allows. -/
theorem request_eq_iff {result : Except RequestFault FrameRequest} :
    parameters.request = result ↔ parameters.Makes result := by
  refine ⟨?_, Makes.request_eq⟩
  rintro rfl
  obtain ⟨result, hresult⟩ := exists_makes parameters
  rwa [hresult.request_eq]

/-! ### Frames -/

/-- The digits of a number state it. -/
theorem states_repr (value : UInt32) : States value.toNat.repr value :=
  coordinate_eq_ok_iff.mp (coordinate_repr "line" value)

/-- Parameters in which a frame is written make the request of this frame. -/
theorem request_of_frame {frame : Frame} (hfile : parameters.IsFile frame.file)
    (hline : parameters.line = some frame.line.toNat.repr)
    (hcolumn : parameters.column = some frame.column.toNat.repr) :
    parameters.request = .ok ⟨frame.file, frame.line, frame.column⟩ :=
  Makes.request_eq (.request hfile ⟨hline, repr_ne_empty _⟩ ⟨hcolumn, repr_ne_empty _⟩
    (states_repr _) (states_repr _))

/-- What is made of parameters is told by what is missing, by the line and by the column, in this
order. In particular, a frame that is written in parameters comes back unchanged, under either name
of its file, if its file is not empty; and that of a frame that a line states is not. -/
theorem request_spec :
    (∀ (parameters : FrameParameters) (result : Except RequestFault FrameRequest),
      parameters.request = result ↔ parameters.Makes result) ∧
    (∀ frame : Frame, frame.file ≠ "" →
      (∀ other, request { ofFrame frame with bundledFile := some frame.file, file := other } =
        .ok ⟨frame.file, frame.line, frame.column⟩) ∧
      ∀ missing, IsMissing missing → request { ofFrame frame with bundledFile := missing } =
        .ok ⟨frame.file, frame.line, frame.column⟩) ∧
    ∀ (line : String) (frame : Frame), Frame.read? line = some frame →
      (ofFrame frame).request = .ok ⟨frame.file, frame.line, frame.column⟩ := by
  refine ⟨fun _ _ => request_eq_iff, fun frame hfile => ⟨fun _ => ?_, fun _ hmissing => ?_⟩,
    fun _ frame hread => request_ofFrame (Frame.file_ne_empty hread)⟩
  · exact request_of_frame (.inl ⟨rfl, hfile⟩) rfl rfl
  · exact request_of_frame (.inr ⟨hmissing, rfl, hfile⟩) rfl rfl

/-- An empty longer name gives way to the shorter one, a plus sign and blanks may stand around
digits, and what is missing comes before what is no number. -/
theorem request_spec_three_queries :
    Makes ⟨some "", some "C:\\a b.js", some "\t+007 ", some "4294967296"⟩
        (.error (.invalid "column" "4294967296")) ∧
      Makes ⟨none, some "", some "x", none⟩ (.error (.missing ["file", "column"])) ∧
      request ⟨some "/a.js", some "x", some "1", some "4294967295"⟩ =
        .ok ⟨"/a.js", 1, 4294967295⟩ ∧
      (ofFrame ⟨some "f", "/a.js", 1, 2⟩).request = .ok ⟨"/a.js", 1, 2⟩ := by
  obtain ⟨hmakes, hfile, hread⟩ := request_spec
  refine ⟨(hmakes _ _).mp (by decide +kernel), (hmakes _ _).mp (by decide +kernel), ?_, ?_⟩
  · exact (hfile ⟨none, "/a.js", 1, 4294967295⟩ (by decide)).1 (some "x")
  · exact hread "at f (/a.js:1:2)" _ (by decide +kernel)

end Retrace.FrameParameters
