import Retrace.Proofs.Symbolication.Service
import Retrace.Proofs.Text
import Retrace.Proofs.Window

/-!
# Resolving batches

The frames of a batch are resolved side by side. Neither the number of those on their way nor the
order in which locations are answered has an influence on the results, which are those of resolving
one frame after the other. There are results unless a frame has no answer, which is the end of the
whole batch, whichever frames are on their way then (`settles`).

A result depends on the frame of its own slot, and of all locations on two at most: the cleaned file
of the frame and the one that the artifact there refers to (`AgreesFor`). Whatever else two batches
and the answers to them differ in, a slot with the same frame has the same result in both, if both
have results (`AgreesFor.run_frame_eq`).
-/

namespace Retrace.Service

open Directive (IsExternal)

variable {service service' : Service} {answer answer' : String → Except FetchFault Artifact}
  {batch batch' : List (Option Frame)} {frame : Frame} {results : List (Option Position)}

/-! ### Side by side -/

/-- A batch has these results when its frames are resolved side by side. No room at all counts as
room for one. -/
def Resolves (service : Service) (answer : String → Except FetchFault Artifact)
    (batch : List (Option Frame)) (results : List (Option Position)) : Prop :=
  Relation.ReflTransGen (Window.Step (max 1 service.concurrency) answer)
    (.start (batch.map service.slot)) (.finish (results.map some))

/-- A batch breaks off: side by side, one of its frames comes to have no answer. -/
def BreaksOff (service : Service) (answer : String → Except FetchFault Artifact)
    (batch : List (Option Frame)) : Prop :=
  ∃ window, Relation.ReflTransGen (Window.Step (max 1 service.concurrency) answer)
    (.start (batch.map service.slot)) window ∧ .done none ∈ window.active

/-- What comes of a batch, side by side: it has results, one for each slot, or it breaks off. -/
structure Settles (service : Service) (answer : String → Except FetchFault Artifact)
    (batch : List (Option Frame)) : Prop where
  /-- There are no other results than those of one frame after the other. -/
  resolves_iff : ∀ results,
    service.Resolves answer batch results ↔ (service.frames batch).run answer = some results
  /-- The batch breaks off exactly if one of its frames has no answer. -/
  breaksOff_iff : service.BreaksOff answer batch ↔
    ∃ frame, some frame ∈ batch ∧ service.Stops answer frame
  /-- There are results exactly if it does not. -/
  exists_resolves_iff :
    (∃ results, service.Resolves answer batch results) ↔ ¬ service.BreaksOff answer batch
  /-- There is one result for each slot. -/
  length_eq : ∀ results, service.Resolves answer batch results → results.length = batch.length
  /-- A missing frame has none. -/
  of_missing : ∀ (results : List (Option Position)) (i : Nat),
    service.Resolves answer batch results → batch[i]? = some none → results[i]? = some none

/-- There is room for a frame. -/
theorem room_pos (service : Service) : 0 < max 1 service.concurrency :=
  Nat.lt_of_lt_of_le Nat.zero_lt_one (Nat.le_max_left 1 _)

/-- A slot has no answer exactly if it has a frame without one. -/
theorem run_slot_eq_none_iff {slot : Option Frame} : (service.slot slot).run answer = none ↔
    ∃ frame, slot = some frame ∧ service.Stops answer frame := by
  cases slot with
  | none => exact ⟨nofun, nofun⟩
  | some frame =>
    rw [Service.slot, run_frame, Option.map_eq_none_iff, run_tryFrame_eq_none_iff]
    simp

/-- A batch has results if each slot has one by itself. -/
theorem run_frames (service : Service) (answer : String → Except FetchFault Artifact)
    (batch : List (Option Frame)) :
    (service.frames batch).run answer =
      batch.mapM fun slot => (service.slot slot).run answer := by
  rw [frames, Plan.run_collect, List.mapM_map]
  rfl

/-- The results of a batch are those that the slots have by themselves. -/
theorem run_frames_eq_some_iff : (service.frames batch).run answer = some results ↔
    List.Forall₂ (fun slot result => (service.slot slot).run answer = some result) batch
      results := by
  rw [run_frames, Text.mapM_eq_some_iff_forall₂]

/-- A batch has no results if one of its frames has no answer. -/
theorem run_frames_eq_none_iff : (service.frames batch).run answer = none ↔
    ∃ frame, some frame ∈ batch ∧ service.Stops answer frame := by
  rw [run_frames, Text.mapM_eq_none_iff]
  simp only [run_slot_eq_none_iff]
  constructor
  · rintro ⟨slot, hmem, frame, rfl, hstops⟩
    exact ⟨frame, hmem, hstops⟩
  · rintro ⟨frame, hmem, hstops⟩
    exact ⟨some frame, hmem, frame, rfl, hstops⟩

/-- The results of lines are those of the frames that they state. -/
theorem run_lines_eq_some_iff {lines : List String} :
    (service.lines lines).run answer = some results ↔
      List.Forall₂ (fun line result => (service.slot (Frame.read? line)).run answer = some result)
        lines results := by
  rw [Service.lines, run_frames_eq_some_iff, List.forall₂_map_left_iff]

/-- Lines have no results if one of them states a frame without an answer. -/
theorem run_lines_eq_none_iff {lines : List String} : (service.lines lines).run answer = none ↔
    ∃ line ∈ lines, ∃ frame, Frame.read? line = some frame ∧ service.Stops answer frame := by
  rw [Service.lines, run_frames_eq_none_iff]
  constructor
  · rintro ⟨frame, hmem, hstops⟩
    obtain ⟨line, hline, hread⟩ := List.mem_map.mp hmem
    exact ⟨line, hline, frame, hread, hstops⟩
  · rintro ⟨line, hline, frame, hread, hstops⟩
    exact ⟨frame, List.mem_map.mpr ⟨line, hline, hread⟩, hstops⟩

/-- Side by side frames have the results that they have one after the other. -/
theorem resolves_iff :
    service.Resolves answer batch results ↔ (service.frames batch).run answer = some results := by
  rw [Resolves, Window.run_iff service.room_pos, run_frames_eq_some_iff, eq_comm, List.map_map,
    ← List.forall₂_eq_eq_eq, List.forall₂_map_left_iff, List.forall₂_map_right_iff]
  rfl

/-- A frame without an answer is met on the way. -/
theorem breaksOff_iff : service.BreaksOff answer batch ↔
    ∃ frame, some frame ∈ batch ∧ service.Stops answer frame := by
  rw [BreaksOff, Window.exists_done_iff service.room_pos, ← run_frames_eq_none_iff, run_frames,
    Text.mapM_eq_none_iff]
  simp only [List.mem_map, exists_exists_and_eq_and]

/-- The result of a slot is that of its frame by itself. -/
theorem Resolves.getElem?_eq (h : service.Resolves answer batch results) {i : Nat}
    {slot : Option Frame} (hslot : batch[i]? = some slot) :
    results[i]? = (service.slot slot).run answer := by
  obtain ⟨hi, rfl⟩ := List.getElem?_eq_some_iff.mp hslot
  have hall := run_frames_eq_some_iff.mp (resolves_iff.mp h)
  have hresult := hall.get hi (hall.length_eq ▸ hi)
  rw [List.get_eq_getElem, List.get_eq_getElem] at hresult
  rw [List.getElem?_eq_getElem (hall.length_eq ▸ hi), hresult]

/-- What comes of a batch. -/
theorem settles (service : Service) (answer : String → Except FetchFault Artifact)
    (batch : List (Option Frame)) : service.Settles answer batch where
  resolves_iff _ := resolves_iff
  breaksOff_iff := breaksOff_iff
  exists_resolves_iff := by
    simp only [resolves_iff, breaksOff_iff, ← run_frames_eq_none_iff,
      ← Option.ne_none_iff_exists', ne_eq]
  length_eq results h := (run_frames_eq_some_iff.mp (resolves_iff.mp h)).length_eq.symm
  of_missing _ _ h hmissing := h.getElem?_eq hmissing

/-! ### Slots by themselves -/

/-- Two ways in which locations are answered agree on all that a frame can depend on: the file that
it has when it is cleaned, and where the artifact there has its map, if this is elsewhere. -/
structure AgreesFor (cleanup : Cleanup) (answer answer' : String → Except FetchFault Artifact)
    (frame : Frame) : Prop where
  /-- The file of the frame is answered alike. -/
  file : answer (cleanup.apply frame.file) = answer' (cleanup.apply frame.file)
  /-- What the artifact refers to is answered alike. -/
  map : ∀ (artifact : Artifact) (reference location : String),
    answer (cleanup.apply frame.file) = .ok artifact →
      IsExternal artifact.text.toList reference.toList → ¬ "data:".toList <+: reference.toList →
        artifact.place.resolve reference = .ok location → answer location = answer' location

/-- Nothing else is asked for a frame. -/
theorem AgreesFor.eq_of_asked (h : AgreesFor service.cleanup answer answer' frame)
    {location : String} (hasked : location ∈ (service.tryFrame frame).asked answer) :
    answer location = answer' location := by
  cases hfile : answer (service.cleanup.apply frame.file) with
  | error fault =>
    rw [(tryFrame_of_error hfile).1, List.mem_singleton] at hasked
    rw [hasked]
    exact h.file
  | ok artifact =>
    rw [(tryFrame_of_ok hfile).1, List.mem_cons] at hasked
    rcases hasked with rfl | hasked
    · exact h.file
    · obtain ⟨-, reference, hreference, hdata, hresolve⟩ :=
        Artifact.exists_of_asked_locateMap hasked
      exact h.map artifact reference location hfile hreference hdata hresolve

/-- The result of a frame depends on nothing else. -/
theorem AgreesFor.run_frame_eq (h : AgreesFor service.cleanup answer answer' frame) :
    (service.frame frame).run answer = (service.frame frame).run answer' := by
  have htry : (service.tryFrame frame).run answer = (service.tryFrame frame).run answer' :=
    Plan.run_congr _ fun _ => h.eq_of_asked
  rw [run_frame, run_frame, htry]

/-- How a slot is resolved depends on the rules only, and on what becomes of lines that do not
fit. -/
theorem slot_eq_of_cleanup (hcleanup : service.cleanup = service'.cleanup)
    (hoverflow : service.overflow = service'.overflow) (slot : Option Frame) :
    service.slot slot = service'.slot slot := by
  cases slot with
  | none => rfl
  | some frame =>
    unfold Service.slot Service.frame tryFrame resolveIn
    rw [hcleanup, hoverflow]

/-- Two batches, whichever frames and answers they have: each has one result for each slot, and a
missing frame has none, or it breaks off at a frame without an answer. If both have results, slots
with the same frame have the same result, whatever is answered to what the frame does not depend
on. -/
theorem frames_isolated {i : Nat} {slot : Option Frame}
    (hcleanup : service.cleanup = service'.cleanup)
    (hoverflow : service.overflow = service'.overflow)
    (hslot : batch[i]? = some slot) (hslot' : batch'[i]? = some slot)
    (hagrees : ∀ frame, slot = some frame → AgreesFor service.cleanup answer answer' frame) :
    service.Settles answer batch ∧ service'.Settles answer' batch' ∧
      ∀ results results', service.Resolves answer batch results →
        service'.Resolves answer' batch' results' →
          ∃ position, results[i]? = some position ∧ results'[i]? = some position := by
  refine ⟨service.settles answer batch, service'.settles answer' batch',
    fun results results' h h' => ?_⟩
  have hsame : (service.slot slot).run answer = (service'.slot slot).run answer' := by
    rw [← slot_eq_of_cleanup hcleanup hoverflow]
    cases slot with
    | none => rfl
    | some frame => exact (hagrees frame rfl).run_frame_eq
  have hresult : results[i]? = results'[i]? := by
    rw [h.getElem?_eq hslot, h'.getElem?_eq hslot', hsame]
  have hi : i < results.length := by
    rw [(service.settles answer batch).length_eq results h]
    exact (List.getElem?_eq_some_iff.mp hslot).1
  exact ⟨_, List.getElem?_eq_getElem hi, hresult ▸ List.getElem?_eq_getElem hi⟩

/-- A frame with a map, in two batches of other lengths and among other frames, one of them with a
data URL for a map and one without a file. -/
theorem frames_isolated_two_batches :
    let document := "\x7b\"version\":3,\"sources\":[\"a.ts\"],\"mappings\":\"AAAA\"\x7d"
    let store := [("a.js", "f()\n//# sourceMappingURL=a.js.map"), ("a.js.map", document)]
    let store' := ("b.js", "//# sourceMappingURL=data:,") :: store
    let frame : String → Option Frame := fun file => some ⟨none, file, 1, 0⟩
    let results := [none, some ⟨"a.ts", 1, 0, none⟩]
    let results' := [none, some ⟨"a.ts", 1, 0, none⟩, none]
    (⟨.none, 1, .refused⟩ : Service).Resolves (memoryArtifact store) [none, frame "a.js"] results ∧
      (⟨.none, 8, .refused⟩ : Service).Resolves (memoryArtifact store')
        [frame "b.js", frame "a.js", frame "c.js"] results' ∧
      results[1]? = results'[1]? := by
  intro document store store' frame results results'
  have hexternal :
      IsExternal "f()\n//# sourceMappingURL=a.js.map".toList "a.js.map".toList :=
    Directive.find?_eq_external_iff.mp (by decide)
  have hagrees : ∀ f, frame "a.js" = some f →
      AgreesFor .none (memoryArtifact store) (memoryArtifact store') f := by
    intro f hf
    cases hf
    refine ⟨by rw [Cleanup.apply_none]; rfl, ?_⟩
    intro artifact reference location hfile hreference hdata hresolve
    rw [Cleanup.apply_none] at hfile
    cases hfile
    -- The artifact has one reference, which stands beside it.
    obtain rfl := hreference.reference_eq hexternal
    cases hresolve
    rfl
  obtain ⟨hsettles, hsettles', hsame⟩ :=
    @frames_isolated ⟨.none, 1, .refused⟩ ⟨.none, 8, .refused⟩ (memoryArtifact store)
      (memoryArtifact store') [none, frame "a.js"] [frame "b.js", frame "a.js", frame "c.js"] 1
      (frame "a.js") rfl rfl rfl rfl hagrees
  have hresolves := (hsettles.resolves_iff results).mpr (by decide +kernel)
  have hresolves' := (hsettles'.resolves_iff results').mpr (by decide +kernel)
  obtain ⟨position, hfirst, hsecond⟩ := hsame _ _ hresolves hresolves'
  exact ⟨hresolves, hresolves', hfirst.trans hsecond.symm⟩

/-- A frame has no answer when the map beside its file tells of the greatest line. -/
theorem stops_beside_greatest_line {document : Artifact} (name : Option String)
    (hfile : answer "b.js" = .ok ⟨"//# sourceMappingURL=b.js.map", .local "b.js"⟩)
    (hmap : answer "b.js.map" = .ok document)
    (hread : SourceMap.readText document.text =
      .ok ⟨3, none, ["a.ts"], none, "AA+/////DA,AA+/////DA,AACA"⟩) :
    (⟨.none, 8, .refused⟩ : Service).Stops answer ⟨name, "b.js", 1, 0⟩ := by
  have hreference : IsExternal "//# sourceMappingURL=b.js.map".toList "b.js.map".toList :=
    Directive.find?_eq_external_iff.mp (by decide)
  rw [← Cleanup.apply_none "b.js"] at hfile
  -- Its three segments add up to the greatest number of 32 bits.
  exact ⟨rfl, _, _, _, _, hfile, .inr ⟨_, _, _, hreference, by decide, rfl, hmap, hread⟩,
    SourceMap.comesFrom_greatest, by decide⟩

/-- A frame that is resolved by itself has no result beside one whose map tells of the greatest
line. -/
theorem not_resolves_beside_greatest_line :
    let head := "\x7b\"version\":3,\"sources\":[\"a.ts\"],\"mappings\":\""
    let store := [("a.js", "//# sourceMappingURL=a.js.map"), ("a.js.map", head ++ "AAAA\"\x7d"),
      ("b.js", "//# sourceMappingURL=b.js.map"),
      ("b.js.map", head ++ "AA+/////DA,AA+/////DA,AACA\"\x7d")]
    let frame : String → Option Frame := fun file => some ⟨none, file, 1, 0⟩
    let service : Service := ⟨.none, 8, .refused⟩
    service.Resolves (memoryArtifact store) [frame "a.js"] [some ⟨"a.ts", 1, 0, none⟩] ∧
      service.BreaksOff (memoryArtifact store) [frame "a.js", frame "b.js"] ∧
      ¬ ∃ results,
        service.Resolves (memoryArtifact store) [frame "a.js", frame "b.js"] results := by
  intro head store frame service
  have hstops : service.Stops (memoryArtifact store) ⟨none, "b.js", 1, 0⟩ :=
    stops_beside_greatest_line none rfl rfl (eq_ok_of_toOption (by decide +kernel))
  have hbreaks : service.BreaksOff (memoryArtifact store) [frame "a.js", frame "b.js"] :=
    breaksOff_iff.mpr ⟨_, by simp [frame], hstops⟩
  exact ⟨resolves_iff.mpr (by decide +kernel), hbreaks, fun hexists =>
    (service.settles _ _).exists_resolves_iff.mp hexists hbreaks⟩

end Retrace.Service
