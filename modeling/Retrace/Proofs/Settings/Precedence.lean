import Mathlib.Data.List.Nodup
import Retrace.Settings.Source

/-!
# Precedence of sources

Settings are loaded from sources in any order. The layers of the sources are put on top of each
other from the least precedence on, and of every field a layer shows through exactly where no layer
above it sets that field (`Layer.IsField`). So each field has, independently of all others, the
value of the source with the greatest precedence that sets it (`IsDecided`), and its default where
no source does.

One source on top of what is below changes a field if and only if it sets it
(`exists_onTop_of_ok`); from this follows what a row of sources leaves of a field
(`exists_foldlM_of_ok`). The sorted sources do not depend on the order in which the sources are
given (`sorted_eq_of_perm`), and the first of them that fails decides (`foldlM_of_error`).
-/

namespace Retrace

/-! ### Fields of layers -/

namespace Layer

variable {α σ : Type}

/-- A field of layers: the empty layer does not set it, and of two layers the upper one wins where
it sets it. -/
structure IsField (field : Layer → Option α) : Prop where
  /-- The empty layer does not set the field. -/
  empty : field .empty = none
  /-- The upper layer wins, and the lower one shows through. -/
  onto : ∀ upper lower : Layer, field (upper.onto lower) = (field upper).or (field lower)

/-- A section of layers: the empty layer does not have it, and in two layers its fields are put on
top of each other by `onto`. -/
structure IsSection (part : Layer → Option σ) (onto : σ → σ → σ) : Prop where
  /-- The empty layer does not have the section. -/
  empty : part .empty = none
  /-- The section of the upper layer goes on top of that of the lower one. -/
  onto : ∀ upper lower : Layer,
    part (upper.onto lower) = sectionOnto onto (part upper) (part lower)

/-- A field inside a section shows through an upper section that does not set it, as well as through
the absence of one. -/
theorem bind_sectionOnto {onto : σ → σ → σ} {field : σ → Option α}
    (h : ∀ upper lower, field (onto upper lower) = (field upper).or (field lower))
    (upper lower : Option σ) :
    (sectionOnto onto upper lower).bind field = (upper.bind field).or (lower.bind field) := by
  cases upper with
  | none => rfl
  | some upper =>
    cases lower with
    | none => exact (Option.or_none).symm
    | some lower => exact h upper lower

/-- A field of a section is a field of layers. -/
theorem IsSection.isField {part : Layer → Option σ} {onto : σ → σ → σ} {field : σ → Option α}
    (hpart : IsSection part onto)
    (hfield : ∀ upper lower, field (onto upper lower) = (field upper).or (field lower)) :
    IsField fun layer => (part layer).bind field where
  empty := by rw [hpart.empty, Option.bind_none]
  onto upper lower := by rw [hpart.onto, bind_sectionOnto hfield]

/-- A field of a section that may be absent has the default where nothing sets it. -/
theorem getD_bind {empty : σ} {field : σ → Option α} (h : field empty = none) (part : Option σ)
    (default : α) : (field (part.getD empty)).getD default = (part.bind field).getD default := by
  cases part with
  | none => rw [Option.getD_none, h, Option.bind_none]
  | some part => rfl

end Layer

namespace SettingsSource

variable {α : Type} {sources sources' : List SettingsSource} {field : Layer → Option α}

/-! ### Sources in order -/

/-- Precedences differ in their ranks. -/
theorem rank_injective : Function.Injective Precedence.rank := by
  intro p q
  cases p <;> cases q <;> decide

/-- Sorting neither adds nor drops a source. -/
theorem sorted_perm (sources : List SettingsSource) : (sorted sources).Perm sources :=
  List.mergeSort_perm sources _

/-- Sorted sources stand in the order of their precedence. -/
theorem pairwise_sorted (sources : List SettingsSource) :
    (sorted sources).Pairwise fun a b => a.precedence.rank ≤ b.precedence.rank := by
  have htrans (a b c : SettingsSource) (hab : decide (a.precedence.rank ≤ b.precedence.rank) = true)
      (hbc : decide (b.precedence.rank ≤ c.precedence.rank) = true) :
      decide (a.precedence.rank ≤ c.precedence.rank) = true := by
    rw [decide_eq_true_eq] at *
    omega
  have htotal (a b : SettingsSource) : (decide (a.precedence.rank ≤ b.precedence.rank) ||
      decide (b.precedence.rank ≤ a.precedence.rank)) = true := by
    rw [Bool.or_eq_true, decide_eq_true_eq, decide_eq_true_eq]
    omega
  have hsorted := List.pairwise_mergeSort htrans htotal sources
  exact hsorted.imp of_decide_eq_true

/-- Sources of distinct precedences are sorted alike, in whatever order they are given. -/
theorem sorted_eq_of_perm (hdistinct : (sources.map (·.precedence)).Nodup)
    (hperm : sources'.Perm sources) : sorted sources' = sorted sources := by
  have hsorted : (sorted sources').Perm (sorted sources) :=
    (sorted_perm sources').trans (hperm.trans (sorted_perm sources).symm)
  refine hsorted.eq_of_pairwise (fun a b ha hb hab hba => ?_) (pairwise_sorted sources')
    (pairwise_sorted sources)
  -- Two sources that stand in either order have the same precedence, and so are the same source.
  have hrank : a.precedence = b.precedence := rank_injective (Nat.le_antisymm hab hba)
  have ha' : a ∈ sources := hperm.mem_iff.mp ((sorted_perm sources').mem_iff.mp ha)
  have hb' : b ∈ sources := (sorted_perm sources).mem_iff.mp hb
  exact List.inj_on_of_nodup_map hdistinct ha' hb' hrank

/-! ### Rows of sources -/

/-- What a source sets a field to. A source that fails sets nothing. -/
def setting? (field : Layer → Option α) (source : SettingsSource) : Option α :=
  source.layer.toOption.bind field

/-- A source whose layer is had goes on top, and changes a field if it sets it. -/
theorem exists_onTop_of_ok {source : SettingsSource} {layer : Layer} (h : source.layer = .ok layer)
    (below : Layer) : ∃ above, onTop below source = .ok above ∧
      ∀ {α : Type} {field : Layer → Option α}, Layer.IsField field →
        field above = (source.setting? field).or (field below) := by
  refine ⟨layer.onto below, ?_, fun hfield => ?_⟩
  · unfold onTop
    rw [h]
    rfl
  · unfold setting?
    rw [hfield.onto, h]
    rfl

/-- Of a row of sources whose layers are all had, a field has the value of the last one that sets
it; a row in which none does leaves it as it is below. -/
theorem exists_foldlM_of_ok (hok : ∀ source ∈ sources, ∃ layer, source.layer = .ok layer)
    (below : Layer) : ∃ merged, sources.foldlM onTop below = .ok merged ∧
      ∀ {α : Type} {field : Layer → Option α}, Layer.IsField field →
        field merged = (sources.reverse.findSome? (setting? field)).or (field below) := by
  induction sources generalizing below with
  | nil => exact ⟨below, rfl, fun _ => rfl⟩
  | cons source sources ih =>
    obtain ⟨layer, hlayer⟩ := hok source List.mem_cons_self
    obtain ⟨above, habove, hsource⟩ := exists_onTop_of_ok hlayer below
    obtain ⟨merged, hmerged, hrest⟩ :=
      ih (fun other hother => hok other (List.mem_cons_of_mem source hother)) above
    refine ⟨merged, ?_, fun {α field} hfield => ?_⟩
    · rw [List.foldlM_cons, habove]
      exact hmerged
    · calc field merged
          = (sources.reverse.findSome? (setting? field)).or (field above) := hrest hfield
        _ = (sources.reverse.findSome? (setting? field)).or
              ((source.setting? field).or (field below)) := by rw [hsource hfield]
        _ = ((source :: sources).reverse.findSome? (setting? field)).or (field below) := by
            rw [List.reverse_cons, List.findSome?_append, List.findSome?_singleton,
              Option.or_assoc]

/-- The first source of a row that fails decides. -/
theorem foldlM_of_error {before after : List SettingsSource} {source : SettingsSource}
    {fault : SettingsFault} (hbefore : ∀ other ∈ before, ∃ layer, other.layer = .ok layer)
    (hfault : source.layer = .error fault) (below : Layer) :
    (before ++ source :: after).foldlM onTop below = .error fault := by
  obtain ⟨merged, hmerged, -⟩ := exists_foldlM_of_ok hbefore below
  rw [List.foldlM_append, hmerged]
  show (source :: after).foldlM onTop merged = _
  rw [List.foldlM_cons]
  unfold onTop
  rw [hfault]
  rfl

/-! ### Fields by themselves -/

/-- A field is decided by the source with the greatest precedence among those that set it. Where no
source sets it, it has its default. -/
def IsDecided (field : Layer → Option α) (sources : List SettingsSource) (default value : α) :
    Prop :=
  (∃ source ∈ sources, source.setting? field = some value ∧
    ∀ other ∈ sources, other.setting? field ≠ none →
      other.precedence.rank ≤ source.precedence.rank) ∨
  (∀ source ∈ sources, source.setting? field = none) ∧ value = default

/-- What decides a field does not depend on the order in which sources are given. -/
theorem IsDecided.of_perm {default value : α} (hperm : sources.Perm sources')
    (h : IsDecided field sources default value) : IsDecided field sources' default value := by
  unfold IsDecided at h ⊢
  simpa only [hperm.mem_iff] using h

/-- In a row in the order of precedence the last source that sets a field decides it. -/
theorem isDecided_findSome? (field : Layer → Option α) (default : α)
    (hsorted : sources.Pairwise fun a b => a.precedence.rank ≤ b.precedence.rank) :
    IsDecided field sources default
      ((sources.reverse.findSome? (setting? field)).getD default) := by
  cases hfind : sources.reverse.findSome? (setting? field) with
  | none =>
    refine .inr ⟨fun source hsource => ?_, rfl⟩
    exact List.findSome?_eq_none_iff.mp hfind source (List.mem_reverse.mpr hsource)
  | some value =>
    obtain ⟨after, source, before, hsplit, hvalue, hafter⟩ :=
      List.findSome?_eq_some_iff.mp hfind
    have hsources : sources = before.reverse ++ source :: after.reverse := by
      rw [← List.reverse_reverse sources, hsplit]
      simp
    refine .inl ⟨source, by simp [hsources], hvalue, fun other hother hset => ?_⟩
    rw [hsources, List.pairwise_append] at hsorted
    rw [hsources, List.mem_append, List.mem_cons] at hother
    rcases hother with hother | rfl | hother
    · exact hsorted.2.2 other hother source List.mem_cons_self
    · exact Nat.le_refl _
    · exact absurd (hafter other (List.mem_reverse.mp hother)) hset

/-- Settings in which every field is decided by itself; `directory` is the directory in which the
program runs. -/
structure AreDecided (directory : String) (sources : List SettingsSource) (settings : Settings) :
    Prop where
  /-- The host. -/
  host : IsDecided (fun layer => layer.http.bind (·.host)) sources "127.0.0.1" settings.http.host
  /-- The port. -/
  port : IsDecided (fun layer => layer.http.bind (·.port)) sources 4780 settings.http.port
  /-- The least level that is logged. -/
  level : IsDecided (fun layer => layer.logging.bind (·.level)) sources "info"
    settings.logging.level
  /-- The format of log lines. -/
  format : IsDecided (fun layer => layer.logging.bind (·.format)) sources .text
    settings.logging.format
  /-- The environment. -/
  environment : IsDecided (fun layer => layer.resolver.bind (·.environment)) sources "development"
    settings.resolver.environment
  /-- The root directory. -/
  workingRoot : IsDecided (fun layer => layer.resolver.bind (·.workingRoot)) sources directory
    settings.resolver.workingRoot
  /-- How long a page may take. -/
  fetchTimeout : IsDecided (fun layer => layer.resolver.bind (·.fetchTimeout)) sources 10
    settings.resolver.fetchTimeout
  /-- How many frames may be resolved at the same time. -/
  maxConcurrency : IsDecided (fun layer => layer.resolver.bind (·.maxConcurrency)) sources 8
    settings.resolver.maxConcurrency
  /-- The patterns that are removed; an empty list is set, too. -/
  stripPatterns : IsDecided (fun layer => layer.resolver.bind (·.stripPatterns)) sources
    ["^[^:]*route:"] settings.resolver.stripPatterns

/-- Where all fields of a merged layer are decided by themselves, those of a section are, which may
be absent. -/
theorem isDecided_getD {merged : Layer} {σ : Type} {part : Layer → Option σ} {onto : σ → σ → σ}
    {part₀ : σ} {field : σ → Option α}
    (h : ∀ {field : Layer → Option α}, Layer.IsField field → ∀ default : α,
      IsDecided field sources default ((field merged).getD default))
    (hpart : Layer.IsSection part onto) (hempty : field part₀ = none)
    (hfield : ∀ upper lower, field (onto upper lower) = (field upper).or (field lower))
    (default : α) : IsDecided (fun layer => (part layer).bind field) sources default
      ((field ((part merged).getD part₀)).getD default) := by
  rw [Layer.getD_bind hempty]
  exact h (hpart.isField hfield) default

/-- Where all fields of a merged layer are decided by themselves, those of its settings are. -/
theorem areDecided_settings (directory : String) {merged : Layer}
    (h : ∀ {α : Type} {field : Layer → Option α}, Layer.IsField field → ∀ default : α,
      IsDecided field sources default ((field merged).getD default)) :
    AreDecided directory sources (merged.settings directory) := by
  have hhttp : Layer.IsSection Layer.http HttpLayer.onto := ⟨rfl, fun _ _ => rfl⟩
  have hlogging : Layer.IsSection Layer.logging LoggingLayer.onto := ⟨rfl, fun _ _ => rfl⟩
  have hresolver : Layer.IsSection Layer.resolver ResolverLayer.onto := ⟨rfl, fun _ _ => rfl⟩
  exact {
    host := isDecided_getD h hhttp rfl (fun _ _ => rfl) _
    port := isDecided_getD h hhttp rfl (fun _ _ => rfl) _
    level := isDecided_getD h hlogging rfl (fun _ _ => rfl) _
    format := isDecided_getD h hlogging rfl (fun _ _ => rfl) _
    environment := isDecided_getD h hresolver rfl (fun _ _ => rfl) _
    workingRoot := isDecided_getD h hresolver rfl (fun _ _ => rfl) _
    fetchTimeout := isDecided_getD h hresolver rfl (fun _ _ => rfl) _
    maxConcurrency := isDecided_getD h hresolver rfl (fun _ _ => rfl) _
    stripPatterns := isDecided_getD h hresolver rfl (fun _ _ => rfl) _ }

/-! ### Loading -/

/-- A fault is that of the source with the least precedence among those that fail. -/
def FailsFirst (sources : List SettingsSource) (fault : SettingsFault) : Prop :=
  ∃ source ∈ sources, source.layer = .error fault ∧
    ∀ other ∈ sources, ∀ further, other.layer = .error further →
      source.precedence.rank ≤ other.precedence.rank

/-- Some source of a row is the first that fails, if any does. -/
theorem exists_first_of_error {failing : SettingsSource} {further : SettingsFault}
    (hmem : failing ∈ sources) (hfault : failing.layer = .error further) :
    ∃ before source after fault, sources = before ++ source :: after ∧
      (∀ other ∈ before, ∃ layer, other.layer = .ok layer) ∧ source.layer = .error fault := by
  induction sources with
  | nil => cases hmem
  | cons source sources ih =>
    cases hlayer : source.layer with
    | error fault => exact ⟨[], source, sources, fault, rfl, List.forall_mem_nil _, hlayer⟩
    | ok layer =>
      have hrest : failing ∈ sources := by
        rcases List.mem_cons.mp hmem with rfl | hmem
        · cases hlayer.symm.trans hfault
        · exact hmem
      obtain ⟨before, first, after, fault, rfl, hbefore, hfirst⟩ := ih hrest
      refine ⟨source :: before, first, after, fault, rfl, fun other hother => ?_, hfirst⟩
      rcases List.mem_cons.mp hother with rfl | hother
      · exact ⟨layer, hlayer⟩
      · exact hbefore other hother

/-- If a source fails, the fault is that of the first one that does. -/
theorem exists_failsFirst_of_error (engine : Pattern.Engine) (directory : String)
    {failing : SettingsSource} {further : SettingsFault} (hmem : failing ∈ sources)
    (hfault : failing.layer = .error further) :
    ∃ fault, FailsFirst sources fault ∧ load engine directory sources = .error fault := by
  have hperm := sorted_perm sources
  obtain ⟨before, source, after, fault, hsplit, hbefore, hfirst⟩ :=
    exists_first_of_error (hperm.mem_iff.mpr hmem) hfault
  have hsource : source ∈ sources := hperm.mem_iff.mp (by simp [hsplit])
  refine ⟨fault, ⟨source, hsource, hfirst, fun other hother f hf => ?_⟩, ?_⟩
  · have hpairwise := pairwise_sorted sources
    have hother' := hperm.mem_iff.mpr hother
    rw [hsplit, List.pairwise_append, List.pairwise_cons] at hpairwise
    rw [hsplit, List.mem_append, List.mem_cons] at hother'
    rcases hother' with hother' | rfl | hother'
    · -- The sources before do not fail.
      obtain ⟨layer, hlayer⟩ := hbefore other hother'
      cases hlayer.symm.trans hf
    · exact Nat.le_refl _
    · exact hpairwise.2.1.1 other hother'
  · unfold load
    rw [hsplit, foldlM_of_error hbefore hfirst]
    rfl

/-- If no source fails, every field is decided by itself, and the settings are valid or break a
rule. -/
theorem exists_areDecided_of_ok (engine : Pattern.Engine) (directory : String)
    (hok : ∀ source ∈ sources, ∃ layer, source.layer = .ok layer) :
    ∃ settings, AreDecided directory sources settings ∧ load engine directory sources =
      match settings.resolver.violation? engine with
      | some violation => .error (.invalid violation)
      | none => .ok settings := by
  have hperm := sorted_perm sources
  obtain ⟨merged, hmerged, hfields⟩ :=
    exists_foldlM_of_ok (fun source hsource => hok source (hperm.mem_iff.mp hsource)) .empty
  have hdecided {α : Type} {field : Layer → Option α} (hfield : Layer.IsField field)
      (default : α) : IsDecided field sources default ((field merged).getD default) := by
    rw [hfields hfield, hfield.empty, Option.or_none]
    exact (isDecided_findSome? field default (pairwise_sorted sources)).of_perm hperm
  refine ⟨merged.settings directory, areDecided_settings directory hdecided, ?_⟩
  unfold load
  rw [hmerged]
  rfl

/-- Settings do not depend on the order in which sources of distinct precedences are given. If a
source fails, they fail as the one with the least precedence that does. If none does, every field
has, by itself, the value of the source with the greatest precedence that sets it, or its default
where no source does; and then the rules are checked. -/
theorem load_spec (engine : Pattern.Engine) (directory : String)
    (hdistinct : (sources.map (·.precedence)).Nodup) :
    (∀ sources' : List SettingsSource, sources'.Perm sources →
      load engine directory sources' = load engine directory sources) ∧
    ((∃ source ∈ sources, ∃ fault, source.layer = .error fault) →
      ∃ fault, FailsFirst sources fault ∧ load engine directory sources = .error fault) ∧
    ((∀ source ∈ sources, ∃ layer, source.layer = .ok layer) →
      ∃ settings, AreDecided directory sources settings ∧ load engine directory sources =
        match settings.resolver.violation? engine with
        | some violation => .error (.invalid violation)
        | none => .ok settings) := by
  refine ⟨fun sources' hperm => ?_, ?_, exists_areDecided_of_ok engine directory⟩
  · unfold load
    rw [sorted_eq_of_perm hdistinct hperm]
  · rintro ⟨source, hsource, fault, hfault⟩
    exact exists_failsFirst_of_error engine directory hsource hfault

/-- A file and the environment both set the patterns and the number of frames at a time, in three
sources out of order; the same with a file that cannot be read. -/
theorem load_spec_three_sources :
    let environment : SettingsSource := ⟨.environment, .ok {
      http := some {}, resolver := some { maxConcurrency := some 2, stripPatterns := some [] } }⟩
    let file : SettingsSource := ⟨.file, .ok {
      http := some { port := some 8000 },
      resolver := some {
        fetchTimeout := some 3, maxConcurrency := some 4, stripPatterns := some ["("] } }⟩
    let broken : SettingsSource := ⟨.file, .error (.malformed "a.toml")⟩
    let settings : Settings :=
      ⟨⟨"127.0.0.1", 8000⟩, ⟨"info", .text⟩, ⟨"development", "/srv", 3, 2, []⟩⟩
    ([environment, .defaults, file].map (·.precedence)).Nodup ∧
      AreDecided "/srv" [environment, .defaults, file] settings ∧
      load .standard "/srv" [environment, .defaults, file] = .ok settings ∧
      load .standard "/srv" [environment, broken, .defaults] = .error (.malformed "a.toml") := by
  intro environment file broken settings
  have hdistinct : ([environment, .defaults, file].map (·.precedence)).Nodup := by decide
  have hbroken : ([environment, broken, .defaults].map (·.precedence)).Nodup := by decide
  obtain ⟨hperm, -, hfields⟩ := load_spec .standard "/srv" hdistinct
  obtain ⟨-, hfault, -⟩ := load_spec .standard "/srv" hbroken
  -- The sources in order are put on top of each other by computation.
  have hsorted : sorted [.defaults, file, environment] = [.defaults, file, environment] :=
    List.mergeSort_of_pairwise (by decide)
  have hload : load .standard "/srv" [environment, .defaults, file] = .ok settings := by
    have hswap : [defaults, file, environment].Perm [environment, defaults, file] :=
      @List.perm_append_comm _ [defaults, file] [environment]
    rw [← hperm _ hswap]
    unfold load
    rw [hsorted]
    rfl
  refine ⟨hdistinct, ?_, hload, ?_⟩
  · obtain ⟨decided, hdecided, hvalid⟩ := hfields (by
      simp only [List.forall_mem_cons]
      exact ⟨⟨_, rfl⟩, ⟨_, rfl⟩, ⟨_, rfl⟩, List.forall_mem_nil _⟩)
    rw [hload] at hvalid
    split at hvalid
    · cases hvalid
    · cases hvalid
      exact hdecided
  · obtain ⟨fault, ⟨source, hsource, hlayer, -⟩, hresult⟩ :=
      hfault ⟨broken, by simp, _, rfl⟩
    rw [hresult]
    -- Of the three only the file fails.
    simp only [List.mem_cons, List.not_mem_nil, or_false] at hsource
    rcases hsource with rfl | rfl | rfl
    · cases hlayer
    · cases hlayer
      rfl
    · cases hlayer

end SettingsSource

end Retrace
