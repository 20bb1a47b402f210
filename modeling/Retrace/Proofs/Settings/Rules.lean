import Retrace.Proofs.Settings.Precedence
import Retrace.Proofs.Symbolication.Service
import Retrace.Proofs.Text
import Retrace.Settings.Validation

/-!
# Rules of settings

Settings are valid when they keep three rules (`KeepsRules`), and otherwise it is told which one they
break first (`BreaksFirst`); one of the two is always the case, and which one it is the reader of the
settings finds out (`violation?_eq_none_iff`, `violation?_eq_some_iff`).

The patterns are compiled twice, once when the rules are checked and once when the service is built.
So the service can be built from settings that keep the rules (`exists_service`), and what it does
with the file of a frame is said by the patterns alone: each in turn takes off its leftmost match
(`IsCleaned`). All of this holds for every engine that compiles patterns.
-/

namespace Retrace

/-! ### Removing a match -/

namespace Pattern.Rule

/-- A text loses the leftmost match of a rule, or stays as it is when there is none. -/
inductive LosesMatch (rule : Rule) : List Char → List Char → Prop where
  /-- There is no match anywhere. -/
  | unmatched {text : List Char}
      (hnone : ∀ before after, text = before ++ after →
        rule.matchLength? before.getLast? after = none) : LosesMatch rule text text
  /-- There is a match, and none that starts before it. -/
  | matched {before after : List Char} {length : Nat}
      (hmatch : rule.matchLength? before.getLast? after = some length)
      (hfirst : ∀ front back, before ++ after = front ++ back → front.length < before.length →
        rule.matchLength? front.getLast? back = none) :
      LosesMatch rule (before ++ after) (before ++ after.drop length)

/-- The leftmost match of a rule in `text`, in front of which `front` stands, is removed. -/
theorem removeFrom_spec (rule : Rule) (front text : List Char) :
    match rule.removeFrom front.getLast? text with
    | none => ∀ before after, text = before ++ after →
        rule.matchLength? (front ++ before).getLast? after = none
    | some removed => ∃ before after length, text = before ++ after ∧
        removed = before ++ after.drop length ∧
        rule.matchLength? (front ++ before).getLast? after = some length ∧
        ∀ front' back, text = front' ++ back → front'.length < before.length →
          rule.matchLength? (front ++ front').getLast? back = none := by
  induction text generalizing front with
  | nil =>
    unfold removeFrom
    cases hmatch : rule.matchLength? front.getLast? [] with
    | none =>
      intro before after htext
      obtain ⟨rfl, rfl⟩ := List.append_eq_nil_iff.mp htext.symm
      rwa [List.append_nil]
    | some length =>
      exact ⟨[], [], length, rfl, by simp, by rwa [List.append_nil], by simp⟩
  | cons c text ih =>
    have hlast : (front ++ [c]).getLast? = some c := List.getLast?_concat
    have hnext := ih (front ++ [c])
    rw [hlast] at hnext
    unfold removeFrom
    cases hmatch : rule.matchLength? front.getLast? (c :: text) with
    | some length =>
      exact ⟨[], c :: text, length, rfl, rfl, by rwa [List.append_nil], by simp⟩
    | none =>
      -- No match starts here, so that everything is decided behind the first character.
      have hhere : ∀ before after, c :: text = before ++ after →
          (∀ rest, before = c :: rest → text = rest ++ after →
            rule.matchLength? (front ++ [c] ++ rest).getLast? after = none) →
          rule.matchLength? (front ++ before).getLast? after = none := by
        intro before after htext hbehind
        cases before with
        | nil =>
          subst htext
          rwa [List.append_nil]
        | cons b rest =>
          obtain ⟨rfl, hrest⟩ := List.cons_eq_cons.mp htext
          have h := hbehind rest rfl hrest
          rwa [List.append_assoc] at h
      dsimp only
      cases hremoved : rule.removeFrom (some c) text with
      | none =>
        rw [hremoved] at hnext
        intro before after htext
        exact hhere before after htext fun rest _ hrest => hnext rest after hrest
      | some removed =>
        rw [hremoved] at hnext
        obtain ⟨before, after, length, htext, hcut, hlength, hfirst⟩ := hnext
        refine ⟨c :: before, after, length, by rw [htext]; rfl, by rw [hcut]; rfl, ?_, ?_⟩
        · rwa [List.append_assoc] at hlength
        · intro front' back hsplit hlt
          refine hhere front' back hsplit fun rest hrest hback => hfirst rest back hback ?_
          rw [hrest, List.length_cons, List.length_cons] at hlt
          omega

/-- The leftmost match of a rule is what a text loses. -/
theorem losesMatch_remove (rule : Rule) (text : List Char) :
    rule.LosesMatch text (rule.remove text) := by
  have hspec := rule.removeFrom_spec [] text
  unfold remove
  cases hremoved : rule.removeFrom none text with
  | none =>
    rw [List.getLast?_nil, hremoved] at hspec
    exact .unmatched hspec
  | some removed =>
    rw [List.getLast?_nil, hremoved] at hspec
    obtain ⟨before, after, length, rfl, rfl, hlength, hfirst⟩ := hspec
    exact .matched hlength hfirst

end Pattern.Rule

/-! ### Cleaning a file -/

/-- A file is cleaned by patterns: each in turn is compiled and takes off its leftmost match. -/
inductive IsCleaned (engine : Pattern.Engine) : List String → List Char → List Char → Prop where
  /-- Without a pattern the file stays as it is. -/
  | nil {file : List Char} : IsCleaned engine [] file file
  /-- The first pattern takes off its match, and the others clean what is left. -/
  | cons {pattern : String} {patterns : List String} {rule : Pattern.Rule}
      {file left cleaned : List Char} (hrule : engine.compile? pattern = some rule)
      (hfirst : rule.LosesMatch file left) (hrest : IsCleaned engine patterns left cleaned) :
      IsCleaned engine (pattern :: patterns) file cleaned

/-- A cleanup cleans by its patterns. -/
theorem Cleanup.isCleaned_applyList {engine : Pattern.Engine} {patterns : List String}
    {cleanup : Cleanup} (h : ofPatterns? engine patterns = some cleanup) (file : List Char) :
    IsCleaned engine patterns file (cleanup.applyList file) := by
  obtain ⟨rules, hrules, rfl⟩ := Option.map_eq_some_iff.mp h
  have hread := Text.mapM_eq_some_iff_forall₂.mp hrules
  unfold applyList
  clear h hrules
  induction hread generalizing file with
  | nil => exact .nil
  | @cons pattern rule patterns rules hrule _ ih =>
    exact .cons hrule (rule.losesMatch_remove file) (ih (rule.remove file))

/-- A frame is resolved as the one whose file has been cleaned before. -/
theorem Service.tryFrame_eq_of_cleanup (service : Service) (frame : Frame) :
    service.tryFrame frame =
      Service.tryFrame { service with cleanup := .none }
        { frame with file := service.cleanup.apply frame.file } := by
  unfold tryFrame
  rw [Cleanup.apply_none]
  rfl

/-! ### The rules -/

namespace ResolverSettings

/-- Settings keep the rules. -/
structure KeepsRules (engine : Pattern.Engine) (settings : ResolverSettings) : Prop where
  /-- At least one frame is resolved at a time. -/
  concurrency : 1 ≤ settings.maxConcurrency.toNat
  /-- A page has at least a second. -/
  timeout : 1 ≤ settings.fetchTimeout.toNat
  /-- Every pattern can be compiled. -/
  patterns : ∀ pattern ∈ settings.stripPatterns, ∃ rule, engine.compile? pattern = some rule

/-- A rule is the first that settings break: concurrency comes before the timeout, and the timeout
before the patterns, which are looked at from the first on. -/
inductive BreaksFirst (engine : Pattern.Engine) (settings : ResolverSettings) :
    Violation → Prop where
  /-- No frame would be resolved at a time. -/
  | concurrency (hconcurrency : settings.maxConcurrency.toNat = 0) :
      BreaksFirst engine settings .concurrency
  /-- A page would have no time. -/
  | timeout (hconcurrency : 1 ≤ settings.maxConcurrency.toNat)
      (htimeout : settings.fetchTimeout.toNat = 0) : BreaksFirst engine settings .timeout
  /-- A pattern cannot be compiled, and those before it can. -/
  | pattern {before after : List String} {text : String}
      (hconcurrency : 1 ≤ settings.maxConcurrency.toNat)
      (htimeout : 1 ≤ settings.fetchTimeout.toNat)
      (hpatterns : settings.stripPatterns = before ++ text :: after)
      (hbefore : ∀ pattern ∈ before, ∃ rule, engine.compile? pattern = some rule)
      (htext : engine.compile? text = none) : BreaksFirst engine settings (.pattern text)

variable {engine : Pattern.Engine} {settings : ResolverSettings}

/-- A number of 64 bits is zero or at least one. -/
theorem eq_zero_iff_toNat {n : UInt64} : n = 0 ↔ n.toNat = 0 :=
  UInt64.toNat_inj.symm

/-- The search for a broken rule ends in the first one. -/
theorem breaksFirst_of_violation? {violation : Violation}
    (h : settings.violation? engine = some violation) : settings.BreaksFirst engine violation := by
  unfold violation? at h
  split at h
  next hzero =>
    cases h
    exact .concurrency (eq_zero_iff_toNat.mp hzero)
  next hconcurrency =>
    rw [eq_zero_iff_toNat] at hconcurrency
    split at h
    next hzero =>
      cases h
      exact .timeout (by omega) (eq_zero_iff_toNat.mp hzero)
    next htimeout =>
      rw [eq_zero_iff_toNat] at htimeout
      obtain ⟨text, hfind, rfl⟩ := Option.map_eq_some_iff.mp h
      obtain ⟨htext, before, after, hpatterns, hbefore⟩ :=
        List.find?_eq_some_iff_append.mp hfind
      refine .pattern (by omega) (by omega) hpatterns (fun pattern hmem => ?_)
        (Option.isNone_iff_eq_none.mp htext)
      exact Option.isSome_iff_exists.mp (by simpa using hbefore pattern hmem)

/-- Settings in which no broken rule is found keep the rules. -/
theorem keepsRules_of_violation? (h : settings.violation? engine = none) :
    settings.KeepsRules engine := by
  unfold violation? at h
  split at h
  next => cases h
  next hconcurrency =>
    rw [eq_zero_iff_toNat] at hconcurrency
    split at h
    next => cases h
    next htimeout =>
      rw [eq_zero_iff_toNat] at htimeout
      refine ⟨by omega, by omega, fun pattern hmem => ?_⟩
      have hfind := List.find?_eq_none.mp (Option.map_eq_none_iff.mp h) pattern hmem
      exact Option.ne_none_iff_exists'.mp (by simpa using hfind)

/-- Settings that break a rule first do not keep the rules. -/
theorem BreaksFirst.not_keepsRules {violation : Violation}
    (h : settings.BreaksFirst engine violation) : ¬ settings.KeepsRules engine := by
  intro hkeeps
  cases h with
  | concurrency hconcurrency =>
    have := hkeeps.concurrency
    omega
  | timeout _ htimeout =>
    have := hkeeps.timeout
    omega
  | @pattern before after text _ _ hpatterns _ htext =>
    obtain ⟨rule, hrule⟩ := hkeeps.patterns text (by simp [hpatterns])
    cases htext.symm.trans hrule

/-- No broken rule is found exactly in settings that keep the rules. -/
theorem violation?_eq_none_iff :
    settings.violation? engine = none ↔ settings.KeepsRules engine := by
  refine ⟨keepsRules_of_violation?, fun hkeeps => ?_⟩
  cases h : settings.violation? engine with
  | none => rfl
  | some violation => exact absurd hkeeps (breaksFirst_of_violation? h).not_keepsRules

/-- The first rule that settings break is found. -/
theorem BreaksFirst.violation?_eq {violation : Violation}
    (h : settings.BreaksFirst engine violation) : settings.violation? engine = some violation := by
  unfold violation?
  simp only [eq_zero_iff_toNat]
  cases h with
  | concurrency hzero => rw [if_pos hzero]
  | timeout hconcurrency hzero => rw [if_neg (by omega), if_pos hzero]
  | @pattern before after text hconcurrency htimeout hpatterns hbefore htext =>
    rw [if_neg (by omega), if_neg (by omega)]
    have hfind :
        settings.stripPatterns.find? (fun p => (engine.compile? p).isNone) = some text := by
      refine List.find?_eq_some_iff_append.mpr
        ⟨by rw [htext, Option.isNone_none], before, after, hpatterns, fun pattern hmem => ?_⟩
      obtain ⟨rule, hrule⟩ := hbefore pattern hmem
      rw [hrule, Option.isNone_some, Bool.not_false]
    rw [hfind, Option.map_some]

/-- The search for a broken rule ends in a rule exactly when it is the first that is broken. -/
theorem violation?_eq_some_iff {violation : Violation} :
    settings.violation? engine = some violation ↔ settings.BreaksFirst engine violation :=
  ⟨breaksFirst_of_violation?, BreaksFirst.violation?_eq⟩

/-- Settings that keep the rules describe a service, which resolves as many frames at a time as they
say. -/
theorem KeepsRules.exists_service (h : settings.KeepsRules engine) :
    ∃ cleanup, Cleanup.ofPatterns? engine settings.stripPatterns = some cleanup ∧
      settings.service? engine =
        some { cleanup, concurrency := settings.maxConcurrency.toNat } := by
  cases hcleanup : Cleanup.ofPatterns? engine settings.stripPatterns with
  | none =>
    obtain ⟨text, hmem, htext⟩ := Text.mapM_eq_none_iff.mp (Option.map_eq_none_iff.mp hcleanup)
    obtain ⟨rule, hrule⟩ := h.patterns text hmem
    cases htext.symm.trans hrule
  | some cleanup =>
    refine ⟨cleanup, rfl, ?_⟩
    unfold service?
    rw [hcleanup, Option.map_some, Nat.max_eq_left h.concurrency]

end ResolverSettings

/-! ### Settings of a layer -/

/-- A service resolves frames by patterns: a frame is resolved as the one whose file the patterns
have cleaned is resolved without any. -/
def Service.CleansBy (service : Service) (engine : Pattern.Engine) (patterns : List String) :
    Prop :=
  ∀ frame : Frame, ∃ cleaned : String,
    IsCleaned engine patterns frame.file.toList cleaned.toList ∧
      service.tryFrame frame =
        Service.tryFrame { service with cleanup := .none } { frame with file := cleaned }

/-- A service with the cleanup of patterns resolves by them. -/
theorem Service.cleansBy_of_ofPatterns? {engine : Pattern.Engine} {patterns : List String}
    {service : Service} (h : Cleanup.ofPatterns? engine patterns = some service.cleanup) :
    service.CleansBy engine patterns := by
  intro frame
  refine ⟨service.cleanup.apply frame.file, ?_, service.tryFrame_eq_of_cleanup frame⟩
  have hcleaned := Cleanup.isCleaned_applyList h frame.file.toList
  rwa [Cleanup.apply, String.toList_ofList]

namespace Layer

variable {engine : Pattern.Engine} {directory : String} {layer : Layer} {settings : Settings}

/-- The settings of a layer are returned exactly when they keep the rules. -/
theorem validated_eq_ok_iff :
    layer.validated engine directory = .ok settings ↔
      settings = layer.settings directory ∧ settings.resolver.KeepsRules engine := by
  rw [← ResolverSettings.violation?_eq_none_iff]
  unfold validated
  dsimp only
  constructor
  · intro h
    split at h
    next => cases h
    next hnone =>
      cases h
      exact ⟨rfl, hnone⟩
  · rintro ⟨rfl, hnone⟩
    rw [hnone]

/-- The settings of a layer are refused exactly for the first rule that they break. -/
theorem validated_eq_error_iff {fault : SettingsFault} :
    layer.validated engine directory = .error fault ↔
      ∃ violation, fault = .invalid violation ∧
        (layer.settings directory).resolver.BreaksFirst engine violation := by
  simp only [← ResolverSettings.violation?_eq_some_iff]
  unfold validated
  dsimp only
  constructor
  · intro h
    split at h
    next violation hsome =>
      cases h
      exact ⟨violation, rfl, hsome⟩
    next => cases h
  · rintro ⟨violation, rfl, hsome⟩
    rw [hsome]

/-- The rules of a layer, whatever engine compiles patterns: its numbers and patterns, or the
defaults where it does not set them, are those of the settings; the settings are returned exactly
when they keep the rules, and are refused exactly for the first rule that they break; and settings
that are returned describe a service, which resolves as many frames at a time as they say and cleans
files by their patterns in order. -/
theorem validated_spec (engine : Pattern.Engine) (directory : String) (layer : Layer) :
    (layer.settings directory).resolver.maxConcurrency =
        (layer.resolver.bind (·.maxConcurrency)).getD 8 ∧
      (layer.settings directory).resolver.fetchTimeout =
        (layer.resolver.bind (·.fetchTimeout)).getD 10 ∧
      (layer.settings directory).resolver.stripPatterns =
        (layer.resolver.bind (·.stripPatterns)).getD ["^[^:]*route:"] ∧
      (∀ settings, layer.validated engine directory = .ok settings ↔
        settings = layer.settings directory ∧ settings.resolver.KeepsRules engine) ∧
      (∀ fault, layer.validated engine directory = .error fault ↔
        ∃ violation, fault = .invalid violation ∧
          (layer.settings directory).resolver.BreaksFirst engine violation) ∧
      ∀ settings, layer.validated engine directory = .ok settings →
        ∃ service, settings.resolver.service? engine = some service ∧
          service.concurrency = settings.resolver.maxConcurrency.toNat ∧
          service.CleansBy engine settings.resolver.stripPatterns := by
  refine ⟨getD_bind rfl layer.resolver _, getD_bind rfl layer.resolver _,
    getD_bind rfl layer.resolver _, fun _ => validated_eq_ok_iff, fun _ => validated_eq_error_iff,
    fun settings hok => ?_⟩
  have hkeeps := (validated_eq_ok_iff.mp hok).2
  obtain ⟨cleanup, hcleanup, hservice⟩ := hkeeps.exists_service
  exact ⟨_, hservice, rfl, Service.cleansBy_of_ofPatterns? hcleanup⟩

/-- The layer that sets only patterns. -/
def ofPatterns (patterns : List String) : Layer :=
  { resolver := some { stripPatterns := some patterns } }

/-- A layer with two patterns describes a service that cleans by both, in order, with the numbers by
default. -/
theorem validated_spec_two_patterns :
    ∃ settings service,
      (ofPatterns ["^webpack://", "\\?.*$"]).validated .standard "/srv" = .ok settings ∧
        settings.resolver.service? .standard = some service ∧ service.concurrency = 8 ∧
        service.CleansBy .standard ["^webpack://", "\\?.*$"] := by
  obtain ⟨hconcurrency, -, hpatterns, hok, -, hservice⟩ :=
    validated_spec .standard "/srv" (ofPatterns ["^webpack://", "\\?.*$"])
  have hkeeps :
      ((ofPatterns ["^webpack://", "\\?.*$"]).settings "/srv").resolver.KeepsRules .standard :=
    ResolverSettings.violation?_eq_none_iff.mp (by decide +kernel)
  have hvalidated := (hok _).mpr ⟨rfl, hkeeps⟩
  obtain ⟨service, hsome, hnumber, hcleans⟩ := hservice _ hvalidated
  rw [hconcurrency] at hnumber
  rw [hpatterns] at hcleans
  exact ⟨_, service, hvalidated, hsome, hnumber, hcleans⟩

end Layer

end Retrace
