import Retrace.Artifact.Memory
import Retrace.Proofs.Resolve
import Retrace.Proofs.Symbolication.Locate
import Retrace.Symbolication.Service

/-!
# Resolving frames

What comes of a frame is told by the artifact of its cleaned file, stage by stage: whether the file
is there, whether the artifact has a directive, whether the directive holds a map, points somewhere
or neither, and whether a map can be had there (`Outcome`). At each stage it is also told what has
been asked for. The frame's own place is the result at one of the stages only; wherever there is a
directive, a result is what the map says (`tryFrame_outcome`).

A frame has no answer in one case only: its map tells of the greatest line of 32 bits, and the next
one is refused (`Stops`, `run_tryFrame_eq_none_iff`).
-/

namespace Retrace

open Directive (HasNone IsFirst IsPayload IsExternal)

/-- Without rules a path stays as it is. -/
theorem Cleanup.apply_none (path : String) : Cleanup.none.apply path = path :=
  String.ofList_toList

/-- A map never tells of a location that cannot be had. -/
theorem SourceMap.resolve?_ne_unavailable (map : SourceMap) (overflow : Overflow)
    (line column : UInt32) (location : String) (fault : FetchFault) :
    map.resolve? overflow line column ≠ some (.error (.unavailable location fault)) := by
  unfold resolve?
  cases map.index with
  | error fault => exact nofun
  | ok index =>
    intro h
    obtain ⟨found, -, hfound⟩ := Option.map_eq_some_iff.mp h
    split at hfound <;> cases hfound

namespace Service

/-- What is asked for a frame whose cleaned file is `file`, and what comes of it. -/
structure Outcome (overflow : Overflow) (answer : String → Except FetchFault Artifact)
    (file : String) (frame : Frame) (asked : List String)
    (result : Option (Except ResolveFault Position)) : Prop where
  /-- The file is asked for first, and at most one location after it. -/
  asked_eq : ∃ further, asked = file :: further ∧ further.length ≤ 1
  /-- A file that cannot be had is the end. -/
  of_unavailable : ∀ fault, answer file = .error fault →
    asked = [file] ∧ result = some (.error (.unavailable file fault))
  /-- An artifact without a directive is its own source, in which the frame keeps its place. -/
  of_hasNone : ∀ artifact, answer file = .ok artifact → HasNone artifact.text.toList →
    asked = [file] ∧ result = some (.ok ⟨file, frame.line, frame.column, some artifact.text⟩)
  /-- If any line of the artifact holds a map, the first payload decides without a further
  question. -/
  of_isPayload : ∀ (artifact : Artifact) (line payload : List Char), answer file = .ok artifact →
    line ∈ artifact.text.toList.splitOn '\n' → IsPayload line payload →
      ∃ first : String, IsFirst IsPayload artifact.text.toList first.toList ∧
        asked = [file] ∧ result =
          match SourceMap.readInline first with
          | .error fault => some (.error (.malformedMap fault))
          | .ok map => map.resolve? overflow frame.line frame.column
  /-- A data URL of another kind is refused. -/
  of_dataUrl : ∀ (artifact : Artifact) (reference : String), answer file = .ok artifact →
    IsExternal artifact.text.toList reference.toList → "data:".toList <+: reference.toList →
      asked = [file] ∧ result = some (.error (.malformedMap (.ofDataUrl reference.toList)))
  /-- A reference that points nowhere is not asked for. -/
  of_error : ∀ (artifact : Artifact) (reference : String) (fault : FetchFault),
    answer file = .ok artifact → IsExternal artifact.text.toList reference.toList →
      ¬ "data:".toList <+: reference.toList → artifact.place.resolve reference = .error fault →
        asked = [file] ∧ result = some (.error (.unavailable reference fault))
  /-- What any other reference points at is asked for, and decides. -/
  of_ok : ∀ (artifact : Artifact) (reference location : String), answer file = .ok artifact →
    IsExternal artifact.text.toList reference.toList → ¬ "data:".toList <+: reference.toList →
      artifact.place.resolve reference = .ok location →
        asked = [file, location] ∧ result =
          match answer location with
          | .error fault => some (.error (.unavailable location fault))
          | .ok document =>
            match SourceMap.readText document.text with
            | .error fault => some (.error (.malformedMap fault))
            | .ok map => map.resolve? overflow frame.line frame.column
  /-- Where there is a directive, a position comes from the map and from nowhere else. -/
  of_directive : ∀ (artifact : Artifact) (position : Position), answer file = .ok artifact →
    ¬ HasNone artifact.text.toList → result = some (.ok position) →
      ∃ map, artifact.HasMap answer map ∧
        map.resolve? overflow frame.line frame.column = some (.ok position)

variable {service : Service} {frame : Frame} {answer : String → Except FetchFault Artifact}

/-- A frame whose file cannot be had. -/
theorem tryFrame_of_error {fault : FetchFault}
    (h : answer (service.cleanup.apply frame.file) = .error fault) :
    (service.tryFrame frame).asked answer = [service.cleanup.apply frame.file] ∧
      (service.tryFrame frame).run answer =
        some (.error (.unavailable (service.cleanup.apply frame.file) fault)) := by
  unfold tryFrame Artifact.fetch
  simp only [Plan.asked_bind, Plan.run_bind, Plan.asked, Plan.run]
  rw [h]
  exact ⟨rfl, rfl⟩

/-- A frame has the result of trying to resolve it. -/
theorem run_frame (service : Service) (frame : Frame)
    (answer : String → Except FetchFault Artifact) :
    (service.frame frame).run answer =
      ((service.tryFrame frame).run answer).map Except.toOption := by
  unfold Service.frame
  rw [Plan.run_bind]
  rfl

/-- A line has the result of trying to resolve the frame that it states. -/
theorem run_slot_read? (service : Service) (line : String)
    (answer : String → Except FetchFault Artifact) :
    (service.slot (Frame.read? line)).run answer =
      ((service.tryLine line).run answer).map Except.toOption := by
  unfold tryLine
  cases Frame.read? line with
  | none => rfl
  | some frame => exact service.run_frame frame answer

/-- What is located in an artifact decides of a frame in it. -/
theorem resolveIn_spec (service : Service) (file : String) (frame : Frame) (artifact : Artifact)
    (answer : String → Except FetchFault Artifact) :
    (service.resolveIn file frame artifact).asked answer = artifact.locateMap.asked answer ∧
      (service.resolveIn file frame artifact).run answer =
        match artifact.locateMap.run answer with
        | .error fault => some (.error fault)
        | .ok none => some (.ok ⟨file, frame.line, frame.column, some artifact.text⟩)
        | .ok (some map) => map.resolve? service.overflow frame.line frame.column := by
  unfold resolveIn
  rw [Plan.asked_bind, Plan.run_bind]
  exact ⟨List.append_nil _, rfl⟩

/-- A frame whose file is had is decided by what is located there. -/
theorem tryFrame_of_ok {artifact : Artifact}
    (h : answer (service.cleanup.apply frame.file) = .ok artifact) :
    (service.tryFrame frame).asked answer =
        service.cleanup.apply frame.file :: artifact.locateMap.asked answer ∧
      (service.tryFrame frame).run answer =
        match artifact.locateMap.run answer with
        | .error fault => some (.error fault)
        | .ok none =>
          some (.ok
            ⟨service.cleanup.apply frame.file, frame.line, frame.column, some artifact.text⟩)
        | .ok (some map) => map.resolve? service.overflow frame.line frame.column := by
  obtain ⟨hasked, hrun⟩ :=
    service.resolveIn_spec (service.cleanup.apply frame.file) frame artifact answer
  unfold tryFrame Artifact.fetch
  simp only [Plan.asked_bind, Plan.run_bind, Plan.asked, Plan.run]
  rw [h]
  exact ⟨congrArg _ hasked, hrun⟩

/-- What comes of a frame is told stage by stage, for every way in which locations are answered. -/
theorem tryFrame_outcome (service : Service) (frame : Frame)
    (answer : String → Except FetchFault Artifact) :
    Outcome service.overflow answer (service.cleanup.apply frame.file) frame
      ((service.tryFrame frame).asked answer) ((service.tryFrame frame).run answer) where
  asked_eq := by
    cases h : answer (service.cleanup.apply frame.file) with
    | error fault => exact ⟨[], (tryFrame_of_error h).1, Nat.zero_le 1⟩
    | ok artifact =>
      exact ⟨_, (tryFrame_of_ok h).1, artifact.length_asked_locateMap_le answer⟩
  of_unavailable fault h := tryFrame_of_error h
  of_hasNone artifact h hnone := by
    obtain ⟨hasked, hrun⟩ := tryFrame_of_ok h
    rw [Artifact.locateMap_of_hasNone hnone] at hasked hrun
    exact ⟨hasked, hrun⟩
  of_isPayload artifact line payload h hline hpayload := by
    obtain ⟨first, hfirst⟩ := Directive.exists_isFirst_isPayload hline hpayload
    obtain ⟨hasked, hrun⟩ := tryFrame_of_ok h
    rw [Artifact.locateMap_of_isPayload hfirst] at hasked hrun
    -- What is located is a map or the fault of reading it, and never nothing.
    refine ⟨first, hfirst, hasked, hrun.trans ?_⟩
    dsimp only [Plan.run]
    cases SourceMap.readInline first <;> rfl
  of_dataUrl artifact reference h hreference hdata := by
    obtain ⟨hasked, hrun⟩ := tryFrame_of_ok h
    rw [Artifact.locateMap_of_dataUrl hreference hdata] at hasked hrun
    exact ⟨hasked, hrun⟩
  of_error artifact reference fault h hreference hdata hresolve := by
    obtain ⟨hasked, hrun⟩ := tryFrame_of_ok h
    rw [Artifact.locateMap_of_error hreference hdata hresolve] at hasked hrun
    exact ⟨hasked, hrun⟩
  of_ok artifact reference location h hreference hdata hresolve := by
    obtain ⟨hasked, hrun⟩ := tryFrame_of_ok h
    obtain ⟨hfurther, hlocated⟩ := Artifact.locateMap_of_ok hreference hdata hresolve
    rw [hfurther] at hasked
    rw [hlocated] at hrun
    refine ⟨hasked, hrun.trans ?_⟩
    cases answer location with
    | error fault => rfl
    | ok document =>
      dsimp only
      cases SourceMap.readText document.text <;> rfl
  of_directive artifact position h hdirective hposition := by
    rw [(tryFrame_of_ok h).2] at hposition
    split at hposition
    next => cases hposition
    -- The frame's own place would need an artifact without a directive.
    next hlocated => exact absurd (Artifact.locateMap_eq_none_iff.mp hlocated) hdirective
    next map hlocated => exact ⟨map, Artifact.locateMap_eq_some_iff.mp hlocated, hposition⟩

/-- A frame has no answer: it comes from the greatest line that a map can tell of, and sums that do
not fit are refused. -/
structure Stops (service : Service) (answer : String → Except FetchFault Artifact) (frame : Frame) :
    Prop where
  /-- Sums that do not fit are refused. -/
  refused : service.overflow = .refused
  /-- The artifact of the frame has a map that tells of the greatest line. -/
  exists_origin : ∃ artifact map o source,
    answer (service.cleanup.apply frame.file) = .ok artifact ∧ artifact.HasMap answer map ∧
      map.ComesFrom frame.line frame.column o source ∧ o.line.toNat = 2 ^ 32 - 1

/-- A frame has no answer just where the greatest line is refused. -/
theorem run_tryFrame_eq_none_iff :
    (service.tryFrame frame).run answer = none ↔ service.Stops answer frame := by
  constructor
  · intro hnone
    cases h : answer (service.cleanup.apply frame.file) with
    | error fault => cases (tryFrame_of_error h).2.symm.trans hnone
    | ok artifact =>
      rw [(tryFrame_of_ok h).2] at hnone
      split at hnone
      next => cases hnone
      next => cases hnone
      next map hlocated =>
        obtain ⟨hrefused, o, source, hfrom, hline⟩ := SourceMap.resolve?_eq_none_iff.mp hnone
        exact ⟨hrefused, artifact, map, o, source, h,
          Artifact.locateMap_eq_some_iff.mp hlocated, hfrom, hline⟩
  · rintro ⟨hrefused, artifact, map, o, source, h, hmap, hfrom, hline⟩
    rw [(tryFrame_of_ok h).2, Artifact.locateMap_eq_some_iff.mpr hmap]
    exact SourceMap.resolve?_eq_none_iff.mpr ⟨hrefused, o, source, hfrom, hline⟩

/-- An artifact with a map beside it, one without a directive, one with a data URL that holds no
map, and a file that is not there. -/
theorem tryFrame_outcome_four_files :
    let document := "\x7b\"version\":3,\"sources\":[\"a.ts\"],\"mappings\":\"AAAA\"\x7d"
    let answer := memoryArtifact [("a.js", "f()\n//# sourceMappingURL=a.js.map"),
      ("a.js.map", document), ("b.js", "f()"), ("c.js", "//# sourceMappingURL=data:text/plain,f")]
    let plan := fun (file : String) (line : UInt32) =>
      (⟨.none, 8, .refused⟩ : Service).tryFrame ⟨none, file, line, 0⟩
    ((plan "a.js" 1).asked answer = ["a.js", "a.js.map"] ∧
      (plan "a.js" 1).run answer = some (.ok ⟨"a.ts", 1, 0, none⟩)) ∧
    ((plan "b.js" 0).asked answer = ["b.js"] ∧
      (plan "b.js" 0).run answer = some (.ok ⟨"b.js", 0, 0, some "f()"⟩)) ∧
    ((plan "c.js" 1).asked answer = ["c.js"] ∧
      (plan "c.js" 1).run answer = some (.error (.malformedMap (.dataUrl "data:text/plain,f")))) ∧
    ((plan "d.js" 1).asked answer = ["d.js"] ∧
      (plan "d.js" 1).run answer = some (.error (.unavailable "d.js" (.file .absent)))) := by
  intro document answer plan
  have outcome (file : String) (line : UInt32) :
      Outcome .refused answer file ⟨none, file, line, 0⟩ ((plan file line).asked answer)
        ((plan file line).run answer) := by
    have h := tryFrame_outcome ⟨.none, 8, .refused⟩ ⟨none, file, line, 0⟩ answer
    rw [Cleanup.apply_none] at h
    exact h
  have hdata :
      IsExternal "//# sourceMappingURL=data:text/plain,f".toList "data:text/plain,f".toList :=
    Directive.find?_eq_external_iff.mp (by decide)
  have hreference : IsExternal "f()\n//# sourceMappingURL=a.js.map".toList "a.js.map".toList :=
    Directive.find?_eq_external_iff.mp (by decide)
  have hread : SourceMap.readText document = .ok ⟨3, none, ["a.ts"], none, "AAAA"⟩ :=
    eq_ok_of_toOption (by decide +kernel)
  have hresolve : (⟨3, none, ["a.ts"], none, "AAAA"⟩ : SourceMap).resolve? .refused 1 0 =
      some (.ok ⟨"a.ts", 1, 0, none⟩) := by
    decide +kernel
  refine ⟨?_, ?_, ?_, ?_⟩
  · obtain ⟨hasked, hrun⟩ := (outcome "a.js" 1).of_ok _ _ _ rfl hreference (by decide) rfl
    refine ⟨hasked, hrun.trans ?_⟩
    show (match SourceMap.readText document with
      | .error fault => some (Except.error (ResolveFault.malformedMap fault))
      | .ok map => map.resolve? .refused 1 0) = _
    rw [hread]
    exact hresolve
  · exact (outcome "b.js" 0).of_hasNone _ rfl (Directive.find?_eq_none_iff.mp (by decide))
  · exact (outcome "c.js" 1).of_dataUrl _ _ rfl hdata (by decide)
  · exact (outcome "d.js" 1).of_unavailable _ rfl

/-- A reference can point nowhere: then nothing more is asked for, and the fault is that of the
reference. -/
theorem tryFrame_unresolved_reference :
    let file := "https://h/a.js"
    let page : Url :=
      ⟨"https".toList, some ⟨[], "h".toList, none⟩, .segments ["a.js".toList], none, none⟩
    let artifact : Artifact := ⟨"//# sourceMappingURL=//[", .remote page⟩
    let answer := memoryArtifact [(file, artifact.text)]
    let plan := (⟨.none, 8, .refused⟩ : Service).tryFrame ⟨none, file, 1, 0⟩
    answer file = .ok artifact ∧ IsExternal artifact.text.toList "//[".toList ∧
      ¬ "data:".toList <+: "//[".toList ∧ plan.asked answer = [file] ∧
      plan.run answer = some (.error (.unavailable "//[" (.url .badIpv6))) ∧
      (∀ location, plan.asked answer ≠ [file, location]) ∧
      (∀ location fault, answer location = .error fault →
        plan.run answer ≠ some (.error (.unavailable location fault))) ∧
      (∀ fault, plan.run answer ≠ some (.error (.malformedMap fault))) ∧
      ∀ (map : SourceMap) (overflow : Overflow), plan.run answer ≠ map.resolve? overflow 1 0 := by
  intro file page artifact answer plan
  have hpage : Url.read file = .ok page := eq_ok_of_toOption (by decide +kernel)
  have hartifact : answer file = .ok artifact := by
    show memoryArtifact [(file, artifact.text)] file = _
    rw [memoryArtifact, List.lookup_cons_self]
    dsimp only
    rw [if_pos (by decide), hpage]
  have hreference : IsExternal artifact.text.toList "//[".toList :=
    Directive.find?_eq_external_iff.mp (by decide)
  have hresolve : artifact.place.resolve "//[" = .error (.url .badIpv6) :=
    eq_error_of_match (by decide +kernel)
  have outcome := tryFrame_outcome ⟨.none, 8, .refused⟩ ⟨none, file, 1, 0⟩ answer
  rw [Cleanup.apply_none] at outcome
  obtain ⟨hasked, hrun⟩ := outcome.of_error _ "//[" _ hartifact hreference (by decide) hresolve
  refine ⟨hartifact, hreference, by decide, hasked, hrun, fun location h => ?_,
    fun location fault hfault h => ?_, fun fault h => ?_, fun map overflow h => ?_⟩
  · cases h.symm.trans hasked
  · cases h.symm.trans hrun
    -- Nothing is stored there, but the fault is another one.
    cases hfault.symm.trans (rfl : answer "//[" = .error (.file .absent))
  · cases h.symm.trans hrun
  · exact map.resolve?_ne_unavailable overflow 1 0 _ _ (h.symm.trans hrun)

end Service

end Retrace
