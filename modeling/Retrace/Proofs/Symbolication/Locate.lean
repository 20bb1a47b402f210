import Retrace.Artifact.Memory
import Retrace.Proofs.Base64
import Retrace.Proofs.Directive
import Retrace.Symbolication.Locate

/-!
# Locating source maps

What the deciding directive of an artifact leads to is told case by case: nothing is asked for an
artifact without a directive or with a map inside, and a single location for a reference to a map
elsewhere (`locateMap_of_isPayload`, `locateMap_of_ok`). From the cases follows when there is no map
and which one there is (`locateMap_eq_none_iff`, `locateMap_eq_some_iff`).

A document that is written into an artifact as a payload is read as the document itself
(`readInline_encode`), so it makes no difference which of the two ways a bundler takes
(`locateMap_inline_eq_external`).
-/

namespace Retrace

open Directive (HasNone IsFirst IsPayload IsExternal)

/-- A payload is read as the document that it is the written form of. -/
theorem SourceMap.readInline_encode (document : String) :
    readInline (String.ofList (Base64.encode (Text.Utf8.encode document.toList))) =
      readText document := by
  have hblank := Base64.isBlank_encode (Text.Utf8.encode document.toList)
  -- Trimming leaves the payload as it is.
  have htrim : Text.trim (Base64.encode (Text.Utf8.encode document.toList)) =
      Base64.encode (Text.Utf8.encode document.toList) :=
    (Text.isTrim_self (fun c hc => hblank c (List.mem_of_mem_head? hc))
      fun c hc => hblank c (List.mem_of_mem_getLast? hc)).eq_trim.symm
  have hdecode :
      Base64.decode (Text.Utf8.encode (Base64.encode (Text.Utf8.encode document.toList))) =
        .ok (Text.Utf8.encode document.toList) :=
    Base64.decode_payload _
  unfold readInline readText
  rw [String.toList_ofList, htrim, hdecode]
  rfl

/-- A result with a value is known by the value. -/
theorem eq_ok_of_toOption {ε α : Type} {result : Except ε α} {value : α}
    (h : result.toOption = some value) : result = .ok value := by
  cases result with
  | error fault => cases h
  | ok found => cases h; rfl

/-- There is no value exactly where there is a fault. -/
theorem toOption_eq_none_iff {ε α : Type} {result : Except ε α} :
    result.toOption = none ↔ ∃ fault, result = .error fault := by
  cases result with
  | error fault => exact ⟨fun _ => ⟨fault, rfl⟩, fun _ => rfl⟩
  | ok value => exact ⟨nofun, nofun⟩

/-- A result without a value is known by its fault. -/
theorem eq_error_of_match {ε α : Type} {result : Except ε α} {fault : ε}
    (h : (match result with
      | .error found => some found
      | .ok _ => none) = some fault) : result = .error fault := by
  cases result with
  | error found => cases h; rfl
  | ok value => cases h

/-- A data URL begins with its scheme. -/
theorem isDataUrl_iff {reference : String} :
    isDataUrl reference = true ↔ "data:".toList <+: reference.toList :=
  List.isPrefixOf_iff_prefix

namespace Artifact

variable {answer : String → Except FetchFault Artifact} {artifact : Artifact}
  {payload reference location : String}

/-! ### The deciding directive -/

/-- What is located when a document is read. -/
theorem map_some_mapError (read : Except MapFault SourceMap) :
    (read.mapError ResolveFault.malformedMap).map some =
      match read with
      | .error fault => .error (.malformedMap fault)
      | .ok map => .ok (some map) := by
  cases read <;> rfl

/-- Without a directive there is no map. -/
theorem locateMap_of_hasNone (h : HasNone artifact.text.toList) :
    artifact.locateMap = .done (.ok none) := by
  unfold locateMap
  rw [Directive.find?_eq_none_iff.mpr h]

/-- A payload is read on the spot. -/
theorem locateMap_of_isPayload (h : IsFirst IsPayload artifact.text.toList payload.toList) :
    artifact.locateMap =
      .done (match SourceMap.readInline payload with
        | .error fault => .error (.malformedMap fault)
        | .ok map => .ok (some map)) := by
  unfold locateMap
  rw [Directive.find?_eq_inline_iff.mpr h, ← map_some_mapError]

/-- A data URL of another kind holds no map. -/
theorem locateMap_of_dataUrl (h : IsExternal artifact.text.toList reference.toList)
    (hdata : "data:".toList <+: reference.toList) :
    artifact.locateMap = .done (.error (.malformedMap (.ofDataUrl reference.toList))) := by
  unfold locateMap
  rw [Directive.find?_eq_external_iff.mpr h]
  exact if_pos (isDataUrl_iff.mpr hdata)

/-- Any other reference is fetched. -/
theorem locateMap_of_isExternal (h : IsExternal artifact.text.toList reference.toList)
    (hdata : ¬ "data:".toList <+: reference.toList) :
    artifact.locateMap =
      (artifact.fetchMap reference).bind fun result => .done (result.map some) := by
  unfold locateMap
  rw [Directive.find?_eq_external_iff.mpr h]
  exact if_neg fun h => hdata (isDataUrl_iff.mp h)

/-- A reference that points nowhere is not fetched. -/
theorem locateMap_of_error {fault : FetchFault}
    (h : IsExternal artifact.text.toList reference.toList)
    (hdata : ¬ "data:".toList <+: reference.toList)
    (hresolve : artifact.place.resolve reference = .error fault) :
    artifact.locateMap = .done (.error (.unavailable reference fault)) := by
  rw [locateMap_of_isExternal h hdata]
  unfold fetchMap
  rw [hresolve]
  rfl

/-- What a reference points at is asked for once, and holds the map. -/
theorem locateMap_of_ok (h : IsExternal artifact.text.toList reference.toList)
    (hdata : ¬ "data:".toList <+: reference.toList)
    (hresolve : artifact.place.resolve reference = .ok location) :
    artifact.locateMap.asked answer = [location] ∧
      artifact.locateMap.run answer =
        match answer location with
        | .error fault => .error (.unavailable location fault)
        | .ok document =>
          match SourceMap.readText document.text with
          | .error fault => .error (.malformedMap fault)
          | .ok map => .ok (some map) := by
  rw [locateMap_of_isExternal h hdata]
  unfold fetchMap
  rw [hresolve]
  refine ⟨rfl, ?_⟩
  simp only [fetch, Plan.run_bind, Plan.run]
  cases answer location with
  | error fault => rfl
  | ok document => exact map_some_mapError _

/-! ### What is located -/

/-- What the directive of an artifact can lead to. -/
theorem directive_cases (artifact : Artifact) :
    HasNone artifact.text.toList ∨
      (∃ payload : String, IsFirst IsPayload artifact.text.toList payload.toList) ∨
      ∃ reference : String, IsExternal artifact.text.toList reference.toList ∧
        ("data:".toList <+: reference.toList ∨
          ¬ "data:".toList <+: reference.toList ∧
            ((∃ fault, artifact.place.resolve reference = .error fault) ∨
              ∃ location, artifact.place.resolve reference = .ok location)) := by
  rcases Directive.hasNone_or_isPayload_or_isExternal artifact.text with h | h | ⟨reference, h⟩
  · exact .inl h
  · exact .inr (.inl h)
  · refine .inr (.inr ⟨reference, h, ?_⟩)
    by_cases hdata : "data:".toList <+: reference.toList
    · exact .inl hdata
    · refine .inr ⟨hdata, ?_⟩
      cases artifact.place.resolve reference with
      | error fault => exact .inl ⟨fault, rfl⟩
      | ok location => exact .inr ⟨location, rfl⟩

/-- At most one location is asked for. -/
theorem length_asked_locateMap_le (answer : String → Except FetchFault Artifact)
    (artifact : Artifact) : (artifact.locateMap.asked answer).length ≤ 1 := by
  rcases artifact.directive_cases with hnone | ⟨payload, hpayload⟩ |
    ⟨reference, hreference, hdata | ⟨hdata, ⟨fault, hresolve⟩ | ⟨location, hresolve⟩⟩⟩
  · rw [locateMap_of_hasNone hnone]
    exact Nat.zero_le 1
  · rw [locateMap_of_isPayload hpayload]
    exact Nat.zero_le 1
  · rw [locateMap_of_dataUrl hreference hdata]
    exact Nat.zero_le 1
  · rw [locateMap_of_error hreference hdata hresolve]
    exact Nat.zero_le 1
  · rw [(locateMap_of_ok hreference hdata hresolve).1]
    exact Nat.le_refl 1

/-- What is asked for an artifact is where its reference points. -/
theorem exists_of_asked_locateMap
    (h : location ∈ artifact.locateMap.asked answer) :
    artifact.locateMap.asked answer = [location] ∧
      ∃ reference : String, IsExternal artifact.text.toList reference.toList ∧
        ¬ "data:".toList <+: reference.toList ∧
        artifact.place.resolve reference = .ok location := by
  rcases artifact.directive_cases with hnone | ⟨payload, hpayload⟩ |
    ⟨reference, hreference, hdata | ⟨hdata, ⟨fault, hresolve⟩ | ⟨target, hresolve⟩⟩⟩
  · rw [locateMap_of_hasNone hnone] at h
    cases h
  · rw [locateMap_of_isPayload hpayload] at h
    cases h
  · rw [locateMap_of_dataUrl hreference hdata] at h
    cases h
  · rw [locateMap_of_error hreference hdata hresolve] at h
    cases h
  · have hasked : artifact.locateMap.asked answer = [target] :=
      (locateMap_of_ok hreference hdata hresolve).1
    rw [hasked] at h
    obtain rfl := List.mem_singleton.mp h
    exact ⟨hasked, reference, hreference, hdata, hresolve⟩

/-- An artifact holds a map, or refers to one that is there. -/
def HasMap (answer : String → Except FetchFault Artifact) (artifact : Artifact) (map : SourceMap) :
    Prop :=
  (∃ payload : String, IsFirst IsPayload artifact.text.toList payload.toList ∧
    SourceMap.readInline payload = .ok map) ∨
  ∃ (reference location : String) (document : Artifact),
    IsExternal artifact.text.toList reference.toList ∧ ¬ "data:".toList <+: reference.toList ∧
      artifact.place.resolve reference = .ok location ∧ answer location = .ok document ∧
        SourceMap.readText document.text = .ok map

/-- Nothing is located only without a directive, and otherwise a map that the artifact has. -/
theorem hasNone_or_hasMap_of_locateMap {located : Option SourceMap}
    (h : artifact.locateMap.run answer = .ok located) :
    (located = none ∧ HasNone artifact.text.toList) ∨
      ∃ map, located = some map ∧ artifact.HasMap answer map := by
  rcases artifact.directive_cases with hnone | ⟨payload, hpayload⟩ |
    ⟨reference, hreference, hdata | ⟨hdata, ⟨fault, hresolve⟩ | ⟨location, hresolve⟩⟩⟩
  · rw [locateMap_of_hasNone hnone] at h
    cases h
    exact .inl ⟨rfl, hnone⟩
  · rw [locateMap_of_isPayload hpayload] at h
    cases hread : SourceMap.readInline payload with
    | error fault =>
      rw [hread] at h
      cases h
    | ok map =>
      rw [hread] at h
      cases h
      exact .inr ⟨map, rfl, .inl ⟨payload, hpayload, hread⟩⟩
  -- A data URL and a reference that points nowhere end in a fault.
  · rw [locateMap_of_dataUrl hreference hdata] at h
    cases h
  · rw [locateMap_of_error hreference hdata hresolve] at h
    cases h
  · rw [(locateMap_of_ok hreference hdata hresolve).2] at h
    split at h
    next => cases h
    next document hanswer =>
      split at h
      next => cases h
      next map hread =>
        cases h
        exact .inr ⟨map, rfl, .inr
          ⟨reference, location, document, hreference, hdata, hresolve, hanswer, hread⟩⟩

/-- No map is located just where there is no directive. -/
theorem locateMap_eq_none_iff :
    artifact.locateMap.run answer = .ok none ↔ HasNone artifact.text.toList := by
  constructor
  · intro h
    rcases hasNone_or_hasMap_of_locateMap h with ⟨-, hnone⟩ | ⟨map, hmap, -⟩
    · exact hnone
    · cases hmap
  · intro hnone
    rw [locateMap_of_hasNone hnone]
    rfl

/-- The map that is located is the one that the artifact has. -/
theorem locateMap_eq_some_iff {map : SourceMap} :
    artifact.locateMap.run answer = .ok (some map) ↔ artifact.HasMap answer map := by
  constructor
  · intro h
    rcases hasNone_or_hasMap_of_locateMap h with ⟨hmap, -⟩ | ⟨_, hmap, hhas⟩
    · cases hmap
    · cases hmap
      exact hhas
  · rintro (⟨payload, hpayload, hread⟩ |
      ⟨reference, location, document, hreference, hdata, hresolve, hanswer, hread⟩)
    · rw [locateMap_of_isPayload hpayload, hread]
      rfl
    · rw [(locateMap_of_ok hreference hdata hresolve).2, hanswer]
      dsimp only
      rw [hread]

/-! ### One map in two places -/

/-- It makes no difference whether a document is written into an artifact or stands where the
artifact refers to, except for what is asked. -/
theorem locateMap_inline_eq_external {head document : String} {place other : Place}
    (hdocument : document ≠ "") (hhead : head = "" ∨ head.toList.getLast? = some '\n')
    (hnone : HasNone head.toList) (hreference : reference ≠ "")
    (hblank : ∀ c ∈ reference.toList, Unicode.isBlank c = false)
    (hdata : ¬ "data:".toList <+: reference.toList)
    (hlocation : place.resolve reference = .ok location)
    (hanswer : answer location = .ok ⟨document, other⟩) :
    let payload := String.ofList (Base64.encode (Text.Utf8.encode document.toList))
    let inline : Artifact :=
      ⟨head ++ "//# sourceMappingURL=data:application/json;base64," ++ payload, place⟩
    let external : Artifact := ⟨head ++ "//# sourceMappingURL=" ++ reference, place⟩
    inline.locateMap.run answer = external.locateMap.run answer ∧
      external.locateMap.run answer =
        (match SourceMap.readText document with
        | .error fault => .error (.malformedMap fault)
        | .ok map => .ok (some map)) ∧
      inline.locateMap.asked answer = [] ∧ external.locateMap.asked answer = [location] := by
  intro payload inline external
  have hhead : head.toList = [] ∨ head.toList.getLast? = some '\n' := by simpa using hhead
  have hbytes : Text.Utf8.encode document.toList ≠ [] :=
    Text.Utf8.encode_ne_nil (by simpa using hdocument)
  have hpayload : IsFirst IsPayload inline.text.toList payload.toList := by
    simp only [inline, payload, String.toList_append, String.toList_ofList]
    exact Directive.isFirst_isPayload_append hhead hnone (Base64.encode_ne_nil hbytes)
      (Base64.isBlank_encode _)
  have hexternal : IsExternal external.text.toList reference.toList := by
    simp only [external, String.toList_append]
    exact Directive.isExternal_append hhead hnone (by simpa using hreference) hblank hdata
  obtain ⟨hasked, hrun⟩ :=
    @locateMap_of_ok answer external reference location hexternal hdata hlocation
  rw [hanswer] at hrun
  -- Both ways read the same document, one from the payload and one from what is answered.
  refine ⟨?_, hrun, ?_, hasked⟩
  · rw [hrun, locateMap_of_isPayload hpayload, SourceMap.readInline_encode]
    rfl
  · rw [locateMap_of_isPayload hpayload]
    rfl

/-- A map beside an artifact, and the same map inside it. -/
theorem locateMap_inline_eq_external_single :
    let document := "\x7b\"version\":3,\"sources\":[\"a.ts\"],\"mappings\":\"AAAA\"\x7d"
    let answer := memoryArtifact [("dist/a.js.map", document)]
    let payload := String.ofList (Base64.encode (Text.Utf8.encode document.toList))
    let inline : Artifact :=
      ⟨"f()\n" ++ "//# sourceMappingURL=data:application/json;base64," ++ payload,
        .local "dist/a.js"⟩
    let external : Artifact :=
      ⟨"f()\n" ++ "//# sourceMappingURL=" ++ "a.js.map", .local "dist/a.js"⟩
    SourceMap.readText document = .ok ⟨3, none, ["a.ts"], none, "AAAA"⟩ ∧
      inline.locateMap.run answer = .ok (some ⟨3, none, ["a.ts"], none, "AAAA"⟩) ∧
      external.locateMap.run answer = .ok (some ⟨3, none, ["a.ts"], none, "AAAA"⟩) ∧
      inline.locateMap.asked answer = [] ∧
      external.locateMap.asked answer = ["dist/a.js.map"] := by
  intro document answer payload inline external
  have hread : SourceMap.readText document = .ok ⟨3, none, ["a.ts"], none, "AAAA"⟩ :=
    eq_ok_of_toOption (by decide +kernel)
  have hnone : HasNone "f()\n".toList :=
    Directive.find?_eq_none_iff.mp (by decide : Directive.find? "f()\n" = none)
  obtain ⟨hsame, hrun, hinline, hexternal⟩ :=
    @locateMap_inline_eq_external answer "a.js.map" "dist/a.js.map" "f()\n" document
      (.local "dist/a.js") (.local "dist/a.js.map") (by decide) (by decide) hnone (by decide)
      (Text.isBlank_eq_false_of_all (by decide)) (by decide) rfl rfl
  rw [hread] at hrun
  exact ⟨hread, hsame.trans hrun, hrun, hinline, hexternal⟩

end Artifact

end Retrace
