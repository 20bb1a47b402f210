import Retrace.Proofs.Endpoint.Form
import Retrace.Proofs.Endpoint.TraceRequest
import Retrace.Proofs.Frame.RoundTrip
import Retrace.Proofs.Symbolication.Batch

/-!
# Ways in

A frame can be handed in on its own, as a line of a list or as a line of a trace. The ways cut,
check and convert a frame differently, and agree: a trace with a line feed behind each line is
resolved as the list of its lines (`Service.trace_join`), and of a list of lines each has the result
that the frame it states has on its own (`run_respond_of_submitsFrame`,
`run_respond_of_submitsLines`). A frame that is read from a line can be handed in on its own, since
its file is not empty and its numbers fit (`Request.submitsFrame_ofFrame`), if a target has room for
it, and lines can be handed in that a body has room for (`Request.submitsLines_ofLines`).

They agree as far as a list is answered: a frame without an answer leaves the whole list without one
(`AnswersAlike.eq_none_iff`), and the frames beside it are answered on their own only.
-/

namespace Retrace

/-! ### Traces and lists of lines -/

/-- A carriage return at the end of a line does not matter. -/
theorem Frame.read?_dropCarriageReturn (line : String) :
    read? (String.ofList (Text.dropCarriageReturn line.toList)) = read? line := by
  unfold read? core
  rw [String.toList_ofList, Text.trim_dropCarriageReturn]

/-- A trace with a line feed behind each line is resolved as the list of its lines. -/
theorem Service.trace_join (service : Service) {lines : List String}
    (h : ∀ line ∈ lines, '\n' ∉ line.toList) :
    service.trace (String.join (lines.map (· ++ "\n"))) = service.lines lines := by
  have htext : (String.join (lines.map (· ++ "\n"))).toList =
      (lines.map String.toList).flatMap (· ++ ['\n']) := by
    simp [String.toList_join, List.flatMap_map]
  have hpieces : ∀ piece ∈ lines.map String.toList, '\n' ∉ piece := by
    intro piece hpiece
    obtain ⟨line, hline, rfl⟩ := List.mem_map.mp hpiece
    exact h line hline
  have hframes : (Text.linesOf (String.join (lines.map (· ++ "\n")))).map Frame.read? =
      lines.map Frame.read? := by
    unfold Text.linesOf
    rw [htext, Text.lines_flatMap_concat hpieces, List.map_map, List.map_map, List.map_map]
    refine List.map_congr_left fun line _ => ?_
    simp only [Function.comp_apply]
    rw [Frame.read?_dropCarriageReturn]
  unfold trace Service.lines
  rw [hframes]

/-! ### Frames on their own -/

/-- A frame that a line states has a file. -/
theorem Frame.file_ne_empty {line : String} {frame : Frame} (h : read? line = some frame) :
    frame.file ≠ "" := by
  rcases read?_eq_some_iff.mp h with ⟨⟨_, _, _, -, -, -, hfile, -⟩, -⟩ | ⟨_, _, -, -, ⟨hroot, -⟩, -⟩
  · exact hfile.1
  · obtain ⟨root, rest, -, hrest, hfile⟩ := hroot
    intro hempty
    rw [hempty] at hfile
    simp [hrest] at hfile

namespace FrameParameters

/-- The parameters that hand in a frame: its file, and its line and column in decimal digits. -/
def ofFrame (frame : Frame) : FrameParameters where
  file := some frame.file
  line := some frame.line.toNat.repr
  column := some frame.column.toNat.repr

/-- A parameter that is not empty is given. -/
theorem given?_some {value : String} (h : value ≠ "") : given? (some value) = some value := by
  unfold given?
  rw [Option.filter_some, if_pos (by simpa using h)]

/-- A number has digits. -/
theorem repr_ne_empty (n : Nat) : n.repr ≠ "" := by
  intro h
  have hdigits : Nat.toDigits 10 n = [] := by rw [← Nat.toList_repr, h]; rfl
  exact Nat.toDigits_ne_nil hdigits

/-- A number of 32 bits is read back from its digits. -/
theorem coordinate_repr (name : String) (value : UInt32) :
    coordinate name value.toNat.repr = .ok value := by
  have htrim : Text.trim (Nat.toDigits 10 value.toNat) = Nat.toDigits 10 value.toNat := by
    have hdigits := Decimal.isTrim_toDigits (List.forall_mem_nil _) (List.forall_mem_nil _)
      value.toNat
    rw [List.nil_append, List.append_nil] at hdigits
    exact hdigits.eq_trim.symm
  unfold coordinate
  rw [Nat.toList_repr, htrim, Decimal.signed?_toDigits value.toNat_lt]
  dsimp only
  rw [UInt32.ofNat_toNat]

/-- A frame with a file is handed in by its parameters. -/
theorem request_ofFrame {frame : Frame} (h : frame.file ≠ "") :
    (ofFrame frame).request = .ok ⟨frame.file, frame.line, frame.column⟩ := by
  unfold request ofFrame
  dsimp only
  rw [given?_some h, given?_some (repr_ne_empty _), given?_some (repr_ne_empty _)]
  dsimp only [given?, Option.filter_none, Option.none_or]
  rw [coordinate_repr, coordinate_repr]
  rfl

/-- The parameters of a frame as a form. -/
def write (frame : Frame) : List Char :=
  Form.write [("file", frame.file), ("line", frame.line.toNat.repr),
    ("column", frame.column.toNat.repr)]

/-- The parameters of a frame are read back. -/
theorem ofQuery_write (frame : Frame) : ofQuery (write frame) = .ok (ofFrame frame) := by
  unfold ofQuery write
  rw [Form.pairs_write]
  rfl

end FrameParameters

/-! ### Requests -/

namespace Request

/-- A request hands in a frame on its own. The name of its method has no place there. -/
structure SubmitsFrame (request : Request) (frame : Frame) : Prop where
  /-- Something is handed in. -/
  method : request.method = "POST"
  /-- It is handed in as a frame. -/
  path : request.path = Route.frame.path.toList
  /-- The parameters are those of the frame. -/
  parameters : FrameParameters.ofQuery request.query = .ok (FrameParameters.ofFrame frame)

/-- A request hands in a list of lines. -/
structure SubmitsLines (request : Request) (lines : List String) : Prop where
  /-- Something is handed in. -/
  method : request.method = "POST"
  /-- It is handed in as lines. -/
  path : request.path = Route.trace.path.toList
  /-- The body has these lines. -/
  body : TraceRequest.ofRequest request = .ok ⟨lines⟩

/-- The request that hands in a frame on its own. -/
def ofFrame (frame : Frame) : Request where
  method := "POST"
  target := String.ofList ("/_crash?".toList ++ FrameParameters.write frame)
  headers := []
  body := []

/-- The parameters of a frame stand behind the path. -/
theorem resource_ofFrame (frame : Frame) :
    (ofFrame frame).resource = "/_crash?".toList ++ FrameParameters.write frame := by
  have hmark : ∀ c ∈ "/_crash?".toList ++ FrameParameters.write frame,
      decide (c ≠ '#') = true := by
    intro c hc
    refine decide_eq_true ?_
    rintro rfl
    rcases List.mem_append.mp hc with hc | hc
    · exact absurd hc (by decide)
    · exact Form.not_mem_write _ hc
  have htake : ("/_crash?".toList ++ FrameParameters.write frame).takeWhile (· ≠ '#') =
      "/_crash?".toList ++ FrameParameters.write frame := by
    rw [← List.append_nil (_ ++ _), List.takeWhile_append_of_pos hmark]
    rfl
  unfold resource ofFrame
  dsimp only
  rw [String.toList_ofList, htake]
  rfl

/-- A frame is handed in on its own by the request made of it. -/
theorem submitsFrame_ofFrame (frame : Frame) : (ofFrame frame).SubmitsFrame frame := by
  have hpath : (ofFrame frame).path = Route.frame.path.toList := by
    unfold path
    rw [resource_ofFrame]
    rfl
  have hquery : (ofFrame frame).query = FrameParameters.write frame := by
    unfold query
    rw [resource_ofFrame]
    rfl
  refine ⟨rfl, hpath, ?_⟩
  rw [hquery]
  exact FrameParameters.ofQuery_write frame

/-- The request that hands in lines. -/
def ofLines (lines : List String) : Request where
  method := "POST"
  target := "/_crash/stacktrace"
  headers := [("content-type", "application/json")]
  body := Text.Utf8.encode (TraceRequest.toJson ⟨lines⟩).print

/-- Lines are handed in by the request made of them, if a body has room for them. -/
theorem submitsLines_ofLines {lines : List String}
    (h : (ofLines lines).body.length ≤ TraceRequest.bodyLimit) :
    (ofLines lines).SubmitsLines lines := by
  have hpath : (ofLines lines).path = Route.trace.path.toList := by
    unfold path resource ofLines
    dsimp only
    decide
  have hjson : (ofLines lines).isJson = true := by
    unfold isJson header? ofLines
    dsimp only
    decide +kernel
  refine ⟨rfl, hpath, ?_⟩
  unfold TraceRequest.ofRequest
  rw [hjson, if_neg (by decide), if_neg (Nat.not_lt.mpr h), ofLines, TraceRequest.read_toJson]

end Request

namespace Endpoint

variable {endpoint : Endpoint} {request : Request} {answer : String → Except FetchFault Artifact}

/-- In development a request that hands something in to an endpoint is answered by it. -/
theorem run_respond (hdev : endpoint.isDevelopment = true) (hmethod : request.method = "POST")
    {route : Route} (hpath : request.path = route.path.toList) :
    (endpoint.respond request).run answer =
      ((endpoint.submit request route).run answer).map (·.withHeaders sharingHeaders) := by
  have hroute : Route.ofPath? request.path = some route := by
    rw [hpath]
    cases route <;> decide
  have hsubmit : Method.ofName request.method = .submit := by
    rw [hmethod]
    decide
  unfold respond respondOpenly
  rw [if_pos hdev, Plan.run_bind, hroute]
  dsimp only
  rw [hsubmit]
  rfl

/-- What is wrong with the parameters of a frame is answered. -/
theorem run_submitFrame_of_error {fault : RequestFault}
    (h : (FrameParameters.ofQuery request.query >>= FrameParameters.request) = .error fault) :
    (endpoint.submitFrame request).run answer = some fault.response := by
  unfold submitFrame
  rw [h]
  rfl

/-- The parameters of a frame are answered with its result, if it has an answer. -/
theorem run_submitFrame_of_ok {submitted : FrameRequest}
    (h : (FrameParameters.ofQuery request.query >>= FrameParameters.request) = .ok submitted) :
    (endpoint.submitFrame request).run answer =
      ((endpoint.service.frame submitted.frame).run answer).map fun position =>
        Response.ofJson 200 (endpoint.answer position) := by
  unfold submitFrame
  rw [h]
  dsimp only
  rw [Plan.run_bind]
  rfl

/-- What is wrong with the body of lines is answered. -/
theorem run_submitTrace_of_error {fault : RequestFault}
    (h : TraceRequest.ofRequest request = .error fault) :
    (endpoint.submitTrace request).run answer = some fault.response := by
  unfold submitTrace
  rw [h]
  rfl

/-- Lines are answered with a list of their results, if they have results. -/
theorem run_submitTrace_of_ok {submitted : TraceRequest}
    (h : TraceRequest.ofRequest request = .ok submitted) :
    (endpoint.submitTrace request).run answer =
      ((endpoint.service.lines submitted.lines).run answer).map fun positions =>
        Response.ofJson 200 (.list (positions.map endpoint.answer)) := by
  unfold submitTrace
  rw [h]
  dsimp only
  rw [Plan.run_bind]
  rfl

/-- A frame on its own is answered with its result. -/
theorem run_respond_of_submitsFrame (hdev : endpoint.isDevelopment = true) {frame : Frame}
    (hfile : frame.file ≠ "") (h : request.SubmitsFrame frame) :
    (endpoint.respond request).run answer =
      ((endpoint.service.frame frame).run answer).map fun position =>
        (Response.ofJson 200 (endpoint.answer position)).withHeaders sharingHeaders := by
  have hrequest : (FrameParameters.ofQuery request.query >>= FrameParameters.request) =
      .ok ⟨frame.file, frame.line, frame.column⟩ := by
    rw [h.parameters]
    exact FrameParameters.request_ofFrame hfile
  rw [run_respond hdev h.method h.path, submit, run_submitFrame_of_ok hrequest, Option.map_map]
  -- The method's name is never looked at.
  rfl

/-- A list of lines is answered with a list of results. -/
theorem run_respond_of_submitsLines (hdev : endpoint.isDevelopment = true) {lines : List String}
    (h : request.SubmitsLines lines) :
    (endpoint.respond request).run answer =
      ((endpoint.service.lines lines).run answer).map fun positions =>
        (Response.ofJson 200 (.list (positions.map endpoint.answer))).withHeaders
          sharingHeaders := by
  rw [run_respond hdev h.method h.path, submit, run_submitTrace_of_ok h.body, Option.map_map]
  rfl

/-- A request that hands in lines is answered as the requests that hand in their frames. -/
structure AnswersAlike (endpoint : Endpoint) (answer : String → Except FetchFault Artifact)
    (lines : List String) (request : Request) : Prop where
  /-- There is no answer exactly if a line states a frame without one. -/
  eq_none_iff : (endpoint.respond request).run answer = none ↔
    ∃ line ∈ lines, ∃ frame, Frame.read? line = some frame ∧ endpoint.service.Stops answer frame
  /-- An answer is a list with a slot for each line: a line that states no frame has no result, and
  any other line has the one that is answered where its frame is handed in on its own. -/
  of_eq_some : ∀ response, (endpoint.respond request).run answer = some response →
    ∃ slots : List Json.Value,
      response = (Response.ofJson 200 (.list slots)).withHeaders sharingHeaders ∧
      slots.length = lines.length ∧
      ∀ (i : Nat) line, lines[i]? = some line →
        (Frame.read? line = none → slots[i]? = some .null) ∧
        ∀ frame, Frame.read? line = some frame →
          ((Request.ofFrame frame).target.utf8ByteSize ≤ Request.targetLimit →
            ∃ single : Request, single.SubmitsFrame frame) ∧
          ∃ value, slots[i]? = some value ∧ ∀ single : Request, single.SubmitsFrame frame →
            (endpoint.respond single).run answer =
              some ((Response.ofJson 200 value).withHeaders sharingHeaders)

/-- The result of a line is that of the frame it states. -/
theorem getElem?_of_run_lines {service : Service} {lines : List String}
    {positions : List (Option Position)}
    (h : (service.lines lines).run answer = some positions) {i : Nat} {line : String}
    (hline : lines[i]? = some line) :
    positions[i]? = (service.slot (Frame.read? line)).run answer := by
  refine (Service.resolves_iff.mpr h).getElem?_eq ?_
  rw [List.getElem?_map, hline, Option.map_some]

/-- In development lines are answered as their frames. -/
theorem answersAlike (hdev : endpoint.isDevelopment = true) {lines : List String}
    (hsubmits : request.SubmitsLines lines) : endpoint.AnswersAlike answer lines request where
  eq_none_iff := by
    rw [run_respond_of_submitsLines hdev hsubmits, Option.map_eq_none_iff,
      Service.run_lines_eq_none_iff]
  of_eq_some response hresponse := by
    rw [run_respond_of_submitsLines hdev hsubmits] at hresponse
    obtain ⟨positions, hpositions, rfl⟩ := Option.map_eq_some_iff.mp hresponse
    have hlength := (Service.run_lines_eq_some_iff.mp hpositions).length_eq
    have hslot {i : Nat} {line : String} (hline : lines[i]? = some line) :
        (positions.map endpoint.answer)[i]? =
          ((endpoint.service.slot (Frame.read? line)).run answer).map endpoint.answer := by
      rw [List.getElem?_map, getElem?_of_run_lines hpositions hline]
    refine ⟨_, rfl, by rw [List.length_map, hlength],
      fun i line hline => ⟨fun hread => ?_, fun frame hread => ?_⟩⟩
    · rw [hslot hline, hread]
      rfl
    · -- Since the list has an answer, so has this frame by itself.
      have hi : i < positions.length := hlength ▸ (List.getElem?_eq_some_iff.mp hline).1
      have hframe : (endpoint.service.frame frame).run answer = some positions[i] := by
        rw [← List.getElem?_eq_getElem hi, getElem?_of_run_lines hpositions hline, hread]
        rfl
      refine ⟨fun _ => ⟨_, Request.submitsFrame_ofFrame frame⟩, endpoint.answer positions[i], ?_,
        fun single hsingle => ?_⟩
      · rw [hslot hline, hread, Service.slot, hframe, Option.map_some]
      · rw [run_respond_of_submitsFrame hdev (Frame.file_ne_empty hread) hsingle, hframe,
          Option.map_some]

/-- The ways in agree. A trace with a line feed behind each line is resolved as the list of its
lines. In development lines can be handed in that a body has room for. They are answered as their
frames are on their own, unless one of the frames has no answer, and then not at all. -/
theorem ways_agree (endpoint : Endpoint) (answer : String → Except FetchFault Artifact)
    {lines : List String} (hlines : ∀ line ∈ lines, '\n' ∉ line.toList) :
    endpoint.service.trace (String.join (lines.map (· ++ "\n"))) = endpoint.service.lines lines ∧
      (endpoint.isDevelopment = true →
        ((Request.ofLines lines).body.length ≤ TraceRequest.bodyLimit →
          ∃ request : Request, request.SubmitsLines lines) ∧
        ∀ request : Request, request.SubmitsLines lines →
          endpoint.AnswersAlike answer lines request) :=
  ⟨endpoint.service.trace_join hlines, fun hdev =>
    ⟨fun hroom => ⟨_, Request.submitsLines_ofLines hroom⟩, fun _ => answersAlike hdev⟩⟩

/-- A message, an empty line and a frame that ends in a carriage return. -/
theorem ways_agree_three_lines :
    let document := "\x7b\"version\":3,\"sources\":[\"a.ts\"],\"mappings\":\"AAAA\"\x7d"
    let answer :=
      memoryArtifact [("a.js", "f()\n//# sourceMappingURL=a.js.map"), ("a.js.map", document)]
    let endpoint : Endpoint := ⟨⟨.none, 8, .refused⟩, true, "/srv"⟩
    let lines := ["Error: boom", "", "    at f (a.js:1:0)\r"]
    let frame : Frame := ⟨some "f", "a.js", 1, 0⟩
    let value := endpoint.answer (some ⟨"a.ts", 1, 0, none⟩)
    endpoint.service.trace "Error: boom\n\n    at f (a.js:1:0)\r\n" = endpoint.service.lines lines ∧
      (endpoint.respond (.ofLines lines)).run answer =
        some ((Response.ofJson 200 (.list [.null, .null, value])).withHeaders sharingHeaders) ∧
      (endpoint.respond (.ofFrame frame)).run answer =
        some ((Response.ofJson 200 value).withHeaders sharingHeaders) := by
  intro document answer endpoint lines frame value
  have hlines : ∀ line ∈ lines, '\n' ∉ line.toList := by decide
  have hframe : (endpoint.service.frame frame).run answer = some (some ⟨"a.ts", 1, 0, none⟩) := by
    decide +kernel
  obtain ⟨htrace, hopen⟩ := ways_agree endpoint answer hlines
  have hsubmits : (Request.ofLines lines).SubmitsLines lines :=
    Request.submitsLines_ofLines (by decide +kernel)
  have hanswered : (endpoint.respond (.ofLines lines)).run answer ≠ none := by
    rw [run_respond_of_submitsLines rfl hsubmits, ne_eq, Option.map_eq_none_iff]
    decide +kernel
  obtain ⟨response, hresponse⟩ := Option.ne_none_iff_exists'.mp hanswered
  obtain ⟨slots, rfl, hlength, hslot⟩ := ((hopen rfl).2 _ hsubmits).of_eq_some _ hresponse
  have hfirst : slots[0]? = some .null := (hslot 0 _ rfl).1 (by decide +kernel)
  have hsecond : slots[1]? = some .null := (hslot 1 _ rfl).1 (by decide +kernel)
  obtain ⟨-, shown, hthird, hsingle⟩ := (hslot 2 _ rfl).2 frame (by decide +kernel)
  have hanswer := hsingle _ (Request.submitsFrame_ofFrame frame)
  have hvalue : shown = value := by
    rw [run_respond_of_submitsFrame rfl (by decide) (Request.submitsFrame_ofFrame frame),
      hframe] at hanswer
    cases hanswer
    rfl
  subst hvalue
  match slots, hlength with
  | [_, _, _], _ =>
    cases hfirst
    cases hsecond
    cases hthird
    exact ⟨htrace, hresponse, hanswer⟩

/-- A frame that is answered on its own is not answered in a list with one whose map tells of the
greatest line. -/
theorem unanswered_beside_greatest_line :
    let head := "\x7b\"version\":3,\"sources\":[\"a.ts\"],\"mappings\":\""
    let answer := memoryArtifact [
      ("a.js", "//# sourceMappingURL=a.js.map"), ("a.js.map", head ++ "AAAA\"\x7d"),
      ("b.js", "//# sourceMappingURL=b.js.map"),
      ("b.js.map", head ++ "AA+/////DA,AA+/////DA,AACA\"\x7d")]
    let endpoint : Endpoint := ⟨⟨.none, 8, .refused⟩, true, "/srv"⟩
    let lines := ["at f (a.js:1:0)", "at f (b.js:1:0)"]
    let frame : Frame := ⟨some "f", "a.js", 1, 0⟩
    let value := endpoint.answer (some ⟨"a.ts", 1, 0, none⟩)
    (Request.ofLines lines).SubmitsLines lines ∧
      lines.map Frame.read? = [some frame, some ⟨some "f", "b.js", 1, 0⟩] ∧
      (Request.ofFrame frame).SubmitsFrame frame ∧
      (endpoint.respond (.ofFrame frame)).run answer =
        some ((Response.ofJson 200 value).withHeaders sharingHeaders) ∧
      (endpoint.respond (.ofLines lines)).run answer = none := by
  intro head answer endpoint lines frame value
  have hsubmits : (Request.ofLines lines).SubmitsLines lines :=
    Request.submitsLines_ofLines (by decide +kernel)
  have hreads : lines.map Frame.read? = [some frame, some ⟨some "f", "b.js", 1, 0⟩] := by
    decide +kernel
  have hframe : (endpoint.service.frame frame).run answer = some (some ⟨"a.ts", 1, 0, none⟩) := by
    decide +kernel
  have hstops : endpoint.service.Stops answer ⟨some "f", "b.js", 1, 0⟩ :=
    Service.stops_beside_greatest_line (some "f") rfl rfl (eq_ok_of_toOption (by decide +kernel))
  refine ⟨hsubmits, hreads, Request.submitsFrame_ofFrame frame, ?_, ?_⟩
  · rw [run_respond_of_submitsFrame rfl (by decide) (Request.submitsFrame_ofFrame frame), hframe]
    rfl
  · rw [run_respond_of_submitsLines rfl hsubmits, Option.map_eq_none_iff, Service.lines, hreads,
      Service.run_frames_eq_none_iff]
    exact ⟨_, by simp, hstops⟩

end Endpoint

end Retrace
