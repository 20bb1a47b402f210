import Retrace.Proofs.Decimal
import Retrace.Proofs.Settings.Precedence
import Retrace.Settings.Validation
import Retrace.Settings.Variables

/-!
# Settings written into the environment

Settings are written into environment variables in three ways: as they are, as digits with blanks
around them, and as a list with commas between its elements. A variable that is not set or is empty
stands for a setting that is not made. `Holds` says so of one variable and `Writes` of all nine, and
whatever is written is read back (`layer_of_writes`), variable by variable: a text by
`get?_of_holds`, a number by `number?_of_holds` and a list by `elementsOf_of_spells`.

The layer that is read has all sections, whatever is set. It does no harm to what is below it: on top
of any layer it overwrites the settings that are written and leaves all others (`settings_onto`).
-/

namespace Retrace

/-! ### Ways of writing -/

namespace Environment

/-- A text that is not empty spells itself. -/
def SpellsText (value text : String) : Prop :=
  text = value ∧ value ≠ ""

/-- A number is spelled in digits, with blanks around them. -/
def SpellsNumber (value : Nat) (text : String) : Prop :=
  ∃ front back, text.toList = front ++ Nat.toDigits 10 value ++ back ∧
    (∀ c ∈ front, Unicode.isBlank c = true) ∧ ∀ c ∈ back, Unicode.isBlank c = true

/-- These pieces are elements, with blanks around each, and pieces without an element among them. -/
inductive ArePieces : List String → List (List Char) → Prop where
  /-- No piece is no element. -/
  | nil : ArePieces [] []
  /-- A piece of blanks is no element. -/
  | blank {piece : List Char} {elements : List String} {pieces : List (List Char)}
      (hpiece : ∀ c ∈ piece, Unicode.isBlank c = true) (hrest : ArePieces elements pieces) :
      ArePieces elements (piece :: pieces)
  /-- An element has a character, has no comma and has no blank at its ends. -/
  | element {piece : List Char} {element : String} {elements : List String}
      {pieces : List (List Char)} (hpiece : Text.IsTrim piece element.toList) (hne : element ≠ "")
      (hcomma : ',' ∉ element.toList) (hrest : ArePieces elements pieces) :
      ArePieces (element :: elements) (piece :: pieces)

/-- A list with an element is spelled as pieces with commas between them. -/
def SpellsList (elements : List String) (text : String) : Prop :=
  elements ≠ [] ∧ ∃ pieces, ArePieces elements pieces ∧ text.toList = [','].intercalate pieces

/-- What the variable of a setting holds: nothing or an empty text if the setting is not made, and
otherwise a text that spells its value. -/
inductive Holds {α : Type} (Spells : α → String → Prop) : Option String → Option α → Prop where
  /-- The variable is not set. -/
  | unset : Holds Spells none none
  /-- The variable is empty. -/
  | empty : Holds Spells (some "") none
  /-- The variable has a value. -/
  | written {value : α} {text : String} (h : Spells value text) :
      Holds Spells (some text) (some value)

/-- Settings are written into the environment. -/
structure Writes (held : Environment) (http : HttpLayer) (logging : LoggingLayer)
    (resolver : ResolverLayer) : Prop where
  /-- The host. -/
  host : Holds SpellsText (held "CRASHMAP_HOST") http.host
  /-- The port. -/
  port : Holds (SpellsNumber ·.toNat) (held "CRASHMAP_PORT") http.port
  /-- The least level that is logged. -/
  level : Holds SpellsText (held "CRASHMAP_LOG_LEVEL") logging.level
  /-- The format of log lines, by its name. -/
  format : Holds (fun format text => text = format.name) (held "CRASHMAP_LOG_FORMAT")
    logging.format
  /-- The environment. -/
  environment : Holds SpellsText (held "CRASHMAP_ENV") resolver.environment
  /-- The root directory. -/
  workingRoot : Holds SpellsText (held "CRASHMAP_WORKING_ROOT") resolver.workingRoot
  /-- How long a page may take. -/
  fetchTimeout : Holds (SpellsNumber ·.toNat) (held "CRASHMAP_FETCH_TIMEOUT_SECS")
    resolver.fetchTimeout
  /-- How many frames may be resolved at the same time. -/
  maxConcurrency : Holds (SpellsNumber ·.toNat) (held "CRASHMAP_MAX_CONCURRENCY")
    resolver.maxConcurrency
  /-- The patterns that are removed. -/
  stripPatterns : Holds SpellsList (held "CRASHMAP_STRIP_PATH_PATTERNS")
    resolver.stripPatterns

variable {environment : Environment} {http : HttpLayer} {logging : LoggingLayer}
  {resolver : ResolverLayer}

/-! ### Reading one variable -/

section Variable

variable {α : Type} {Spells : α → String → Prop} {key : String} {setting : Option α}

/-- A variable is read as nothing if the setting is not made, and as the text that it holds
otherwise. -/
theorem get?_cases (hne : ∀ value text, Spells value text → text ≠ "")
    (h : Holds Spells (environment key) setting) :
    setting = none ∧ environment.get? key = none ∨
      ∃ value text, setting = some value ∧ environment.get? key = some text ∧
        Spells value text := by
  unfold get?
  generalize environment key = value? at h ⊢
  cases h with
  | unset => exact .inl ⟨rfl, rfl⟩
  | empty => exact .inl ⟨rfl, rfl⟩
  | written hspells =>
    have htext := hne _ _ hspells
    exact .inr ⟨_, _, rfl, by rw [Option.filter_some, if_pos (by simpa using htext)], hspells⟩

/-- A text is read as it is written. -/
theorem get?_of_holds {setting : Option String} (h : Holds SpellsText (environment key) setting) :
    environment.get? key = setting := by
  have hne (value text : String) (hspells : SpellsText value text) : text ≠ "" :=
    hspells.1 ▸ hspells.2
  obtain ⟨rfl, hget⟩ | ⟨value, text, rfl, hget, rfl, -⟩ := get?_cases hne h
  · exact hget
  · exact hget

/-- A number that is spelled has a digit. -/
theorem SpellsNumber.ne_empty {value : Nat} {text : String} (h : SpellsNumber value text) :
    text ≠ "" := by
  obtain ⟨front, back, htext, -, -⟩ := h
  rintro rfl
  simp [Nat.toDigits_ne_nil] at htext

/-- A number is read as it is written, when it is below the bound. -/
theorem number?_of_holds {toNat : α → Nat} {bound : Nat} (hlt : ∀ value, toNat value < bound)
    (h : Holds (fun value => SpellsNumber (toNat value)) (environment key) setting)
    (kind : String) : environment.number? key kind bound = .ok (setting.map toNat) := by
  unfold number?
  obtain ⟨rfl, hget⟩ | ⟨value, text, rfl, hget, hspells⟩ :=
    get?_cases (fun _ _ => SpellsNumber.ne_empty) h
  · rw [hget]
    rfl
  · obtain ⟨front, back, htext, hfront, hback⟩ := hspells
    have htrim := (Decimal.isTrim_toDigits hfront hback (toNat value)).eq_trim
    rw [hget]
    dsimp only
    rw [htext, ← htrim, Decimal.signed?_toDigits (hlt value)]
    rfl

/-- A number that is written is the number that is read. -/
theorem map_ofNat_toNat {toNat : α → Nat} {ofNat : Nat → α}
    (h : ∀ value, ofNat (toNat value) = value) (setting : Option α) :
    (setting.map toNat).map ofNat = setting := by
  cases setting with
  | none => rfl
  | some value => exact congrArg some (h value)

/-- No piece of a list has a comma. -/
theorem ArePieces.comma_notMem {elements : List String} {pieces : List (List Char)}
    (h : ArePieces elements pieces) : ∀ piece ∈ pieces, ',' ∉ piece := by
  have hcomma : Unicode.isBlank ',' ≠ true := by decide
  induction h with
  | nil => exact List.forall_mem_nil _
  | blank hpiece _ ih =>
    exact List.forall_mem_cons.mpr ⟨fun hmem => hcomma (hpiece _ hmem), ih⟩
  | element hpiece _ hno _ ih =>
    refine List.forall_mem_cons.mpr ⟨fun hmem => ?_, ih⟩
    obtain ⟨front, back, rfl, hfront, hback⟩ := hpiece.blanks
    rcases List.mem_append.mp hmem with hmem | hmem
    · rcases List.mem_append.mp hmem with hmem | hmem
      · exact hcomma (hfront _ hmem)
      · exact hno hmem
    · exact hcomma (hback _ hmem)

/-- The elements of pieces are what is left of them without blanks. -/
theorem ArePieces.filterMap_trim {elements : List String} {pieces : List (List Char)}
    (h : ArePieces elements pieces) : ((pieces.map Text.trim).filterMap fun element =>
      if element.isEmpty then none else some (String.ofList element)) = elements := by
  induction h with
  | nil => rfl
  | @blank piece _ _ hpiece _ ih =>
    have htrim : Text.trim piece = [] := by
      have hblank : Text.IsTrim piece [] := ⟨⟨piece, [], by simp, hpiece, by simp⟩, by simp, by simp⟩
      exact hblank.eq_trim.symm
    rw [List.map_cons, htrim, List.filterMap_cons_none (by rfl), ih]
  | @element _ element _ _ hpiece hne _ _ ih =>
    have hempty : element.toList.isEmpty = false := by simpa using hne
    have hkept : (if element.toList.isEmpty then none else some (String.ofList element.toList)) =
        some element := by
      rw [hempty, String.ofList_toList]
      rfl
    rw [List.map_cons, ← hpiece.eq_trim, List.filterMap_cons]
    simp only [hkept, ih]

/-- The elements of a list are read as they are written. -/
theorem elementsOf_of_spells {elements : List String} {text : String}
    (h : SpellsList elements text) : elementsOf text = elements := by
  obtain ⟨hne, pieces, hpieces, htext⟩ := h
  have hsome : pieces ≠ [] := by
    rintro rfl
    cases hpieces
    exact hne rfl
  unfold elementsOf
  rw [htext, List.splitOn_intercalate ',' hpieces.comma_notMem hsome]
  exact hpieces.filterMap_trim

/-- A list that is spelled has a character. -/
theorem SpellsList.ne_empty {elements : List String} {text : String}
    (h : SpellsList elements text) : text ≠ "" := by
  rintro rfl
  have helements := elementsOf_of_spells h
  exact h.1 (helements.symm.trans (by decide))

end Variable

/-! ### Reading a layer -/

/-- The section of listening is read as it is written. -/
theorem http_of_writes (h : environment.Writes http logging resolver) :
    environment.http = .ok http := by
  unfold Environment.http
  rw [number?_of_holds UInt16.toNat_lt h.port, get?_of_holds h.host]
  -- What is left is that the number has gone through its value and back.
  show Except.ok _ = _
  rw [map_ofNat_toNat fun _ => UInt16.ofNat_toNat]

/-- The format of log lines is read from its name. -/
theorem read_name (format : LogFormat) : LogFormat.read format.name = .ok format := by
  cases format <;> decide +kernel

/-- The section of logging is read as it is written. -/
theorem logging_of_writes (h : environment.Writes http logging resolver) :
    environment.logging = .ok logging := by
  have hname (format : LogFormat) (text : String) (hspells : text = format.name) : text ≠ "" := by
    rw [hspells]
    cases format <;> decide
  unfold Environment.logging
  dsimp only
  rw [get?_of_holds h.level]
  obtain ⟨hformat, hget⟩ | ⟨format, text, hformat, hget, rfl⟩ := get?_cases hname h.format
  · rw [hget]
    show Except.ok _ = _
    rw [← hformat]
  · rw [hget]
    dsimp only
    rw [read_name]
    show Except.ok _ = _
    rw [← hformat]

/-- The section of resolving is read as it is written. -/
theorem resolver_of_writes (h : environment.Writes http logging resolver) :
    environment.resolver = .ok resolver := by
  have hpatterns : (environment.get? "CRASHMAP_STRIP_PATH_PATTERNS").map elementsOf =
      resolver.stripPatterns := by
    obtain ⟨hnone, hget⟩ | ⟨elements, text, hsome, hget, hspells⟩ :=
      get?_cases (fun _ _ => SpellsList.ne_empty) h.stripPatterns
    · rw [hget, hnone]
      rfl
    · rw [hget, hsome, Option.map_some, elementsOf_of_spells hspells]
  unfold Environment.resolver
  rw [number?_of_holds UInt64.toNat_lt h.fetchTimeout,
    number?_of_holds UInt64.toNat_lt h.maxConcurrency, get?_of_holds h.environment,
    get?_of_holds h.workingRoot, hpatterns]
  show Except.ok _ = _
  rw [map_ofNat_toNat fun _ => UInt64.ofNat_toNat, map_ofNat_toNat fun _ => UInt64.ofNat_toNat]

/-- A layer is read as it is written. -/
theorem layer_of_writes (h : environment.Writes http logging resolver) :
    environment.layer = .ok ⟨some http, some logging, some resolver⟩ := by
  unfold Environment.layer
  rw [http_of_writes h, logging_of_writes h, resolver_of_writes h]
  rfl

end Environment

/-! ### On top of other layers -/

/-- Settings in which those that are made are put in place of what is there. -/
def Settings.overwritten (below : Settings) (http : HttpLayer) (logging : LoggingLayer)
    (resolver : ResolverLayer) : Settings where
  http := {
    host := http.host.getD below.http.host
    port := http.port.getD below.http.port }
  logging := {
    level := logging.level.getD below.logging.level
    format := logging.format.getD below.logging.format }
  resolver := {
    environment := resolver.environment.getD below.resolver.environment
    workingRoot := resolver.workingRoot.getD below.resolver.workingRoot
    fetchTimeout := resolver.fetchTimeout.getD below.resolver.fetchTimeout
    maxConcurrency := resolver.maxConcurrency.getD below.resolver.maxConcurrency
    stripPatterns := resolver.stripPatterns.getD below.resolver.stripPatterns }

namespace Layer

/-- Where a section is missing, another one goes on top of one that sets nothing. -/
theorem sectionOnto_some {σ : Type} {onto : σ → σ → σ} {empty : σ}
    (hempty : ∀ upper, onto upper empty = upper) (upper : σ) (lower : Option σ) :
    sectionOnto onto (some upper) lower = some (onto upper (lower.getD empty)) := by
  cases lower with
  | none => rw [Option.getD_none, hempty]; rfl
  | some lower => rfl

/-- A layer with all sections overwrites the settings that it makes, and leaves all others as they
are below. -/
theorem settings_onto (directory : String) (http : HttpLayer) (logging : LoggingLayer)
    (resolver : ResolverLayer) (lower : Layer) :
    (onto ⟨some http, some logging, some resolver⟩ lower).settings directory =
      (lower.settings directory).overwritten http logging resolver := by
  have hhttp : sectionOnto HttpLayer.onto (some http) lower.http =
      some (http.onto (lower.http.getD {})) :=
    sectionOnto_some (fun _ => by simp [HttpLayer.onto]) http lower.http
  have hlogging : sectionOnto LoggingLayer.onto (some logging) lower.logging =
      some (logging.onto (lower.logging.getD {})) :=
    sectionOnto_some (fun _ => by simp [LoggingLayer.onto]) logging lower.logging
  have hresolver : sectionOnto ResolverLayer.onto (some resolver) lower.resolver =
      some (resolver.onto (lower.resolver.getD {})) :=
    sectionOnto_some (fun _ => by simp [ResolverLayer.onto]) resolver lower.resolver
  unfold settings onto Settings.overwritten
  dsimp only
  rw [hhttp, hlogging, hresolver]
  -- In every section a setting that is made below, or by default, shows through.
  simp only [Option.getD_some, HttpLayer.onto, HttpLayer.settings, LoggingLayer.onto,
    LoggingLayer.settings, ResolverLayer.onto, ResolverLayer.settings, Option.getD_or]

end Layer

/-- Settings that are written into the environment are read as they are written, and a variable that
is not set or is empty makes no setting. On top of any layer the settings that are written are put in
place of what is there, all others stay as they are below, and then the rules are checked. -/
theorem Environment.layer_written_spec {environment : Environment} {http : HttpLayer}
    {logging : LoggingLayer} {resolver : ResolverLayer}
    (h : environment.Writes http logging resolver) :
    environment.layer = .ok ⟨some http, some logging, some resolver⟩ ∧
      ∀ (engine : Pattern.Engine) (directory : String) (lower : Layer),
        let merged := Layer.onto ⟨some http, some logging, some resolver⟩ lower
        let settings := (lower.settings directory).overwritten http logging resolver
        merged.settings directory = settings ∧
          merged.validated engine directory =
            match settings.resolver.violation? engine with
            | some violation => .error (.invalid violation)
            | none => .ok settings := by
  refine ⟨layer_of_writes h, fun engine directory lower => ?_⟩
  have hsettings := Layer.settings_onto directory http logging resolver lower
  refine ⟨hsettings, ?_⟩
  rw [← hsettings]
  rfl

/-- Of the nine variables four are not set, one is empty, and the others hold a text, a number with
blanks, the name of a format and a list with empty elements. What is set below shows through. -/
theorem Environment.layer_written_spec_five_variables :
    let environment : Environment := fun key =>
      [("CRASHMAP_HOST", ""), ("CRASHMAP_PORT", "\t9000 "), ("CRASHMAP_LOG_FORMAT", "json"),
        ("CRASHMAP_ENV", " Production"),
        ("CRASHMAP_STRIP_PATH_PATTERNS", "^a b, ,\n^\\./ ,,")].lookup key
    let http : HttpLayer := { port := some 9000 }
    let logging : LoggingLayer := { format := some .json }
    let resolver : ResolverLayer := {
      environment := some " Production", stripPatterns := some ["^a b", "^\\./"] }
    let lower : Layer := {
      http := some { host := some "::1" }, logging := some { level := some "debug" } }
    environment.Writes http logging resolver ∧
      environment.layer = .ok ⟨some http, some logging, some resolver⟩ ∧
      (Layer.onto ⟨some http, some logging, some resolver⟩ lower).settings "/srv" = {
        http := ⟨"::1", 9000⟩, logging := ⟨"debug", .json⟩,
        resolver := ⟨" Production", "/srv", 10, 8, ["^a b", "^\\./"]⟩ } := by
  intro environment http logging resolver lower
  have hhost : environment "CRASHMAP_HOST" = some "" := by decide
  have hport : environment "CRASHMAP_PORT" = some "\t9000 " := by decide
  have hlevel : environment "CRASHMAP_LOG_LEVEL" = none := by decide
  have hformat : environment "CRASHMAP_LOG_FORMAT" = some "json" := by decide
  have henvironment : environment "CRASHMAP_ENV" = some " Production" := by decide
  have hroot : environment "CRASHMAP_WORKING_ROOT" = none := by decide
  have htimeout : environment "CRASHMAP_FETCH_TIMEOUT_SECS" = none := by decide
  have hconcurrency : environment "CRASHMAP_MAX_CONCURRENCY" = none := by decide
  have hpatterns :
      environment "CRASHMAP_STRIP_PATH_PATTERNS" = some "^a b, ,\n^\\./ ,," := by decide
  have hnumber : SpellsNumber (9000 : UInt16).toNat "\t9000 " :=
    ⟨['\t'], [' '], by decide, List.forall_mem_singleton.mpr (by decide),
      List.forall_mem_singleton.mpr (by decide)⟩
  have hpieces : ArePieces ["^a b", "^\\./"]
      ["^a b".toList, [' '], "\n^\\./ ".toList, [], []] :=
    .element (Text.isTrim_iff.mpr (by decide)) (by decide) (by decide) <|
      .blank (List.forall_mem_singleton.mpr (by decide)) <|
      .element (Text.isTrim_iff.mpr (by decide)) (by decide) (by decide) <|
      .blank (List.forall_mem_nil _) <| .blank (List.forall_mem_nil _) .nil
  have hwrites : environment.Writes http logging resolver := {
    host := hhost ▸ .empty
    port := hport ▸ .written hnumber
    level := hlevel ▸ .unset
    format := hformat ▸ .written (by decide)
    environment := henvironment ▸ .written ⟨rfl, by decide⟩
    workingRoot := hroot ▸ .unset
    fetchTimeout := htimeout ▸ .unset
    maxConcurrency := hconcurrency ▸ .unset
    stripPatterns := hpatterns ▸ .written ⟨by decide, _, hpieces, by decide⟩ }
  obtain ⟨hlayer, hmerged⟩ := layer_written_spec hwrites
  exact ⟨hwrites, hlayer, (hmerged .standard "/srv" lower).1.trans (by decide)⟩

end Retrace
