import Mathlib.Data.List.Forall2
import Retrace.Proofs.Endpoint.Agreement
import Retrace.Proofs.Endpoint.Parameters

/-!
# Answers of endpoints

What a caller is answered in development. A request with which nothing is wrong is answered with a
document of results, in which a frame that fails is `null`; of a request with a fault a document
tells the fault and a message (`Response.IsDocumented`). The exceptions are a parameter that is
given twice, of which a plain text tells, with another status, and a frame without an answer, which
leaves the request without one (`IsAnswered`).
-/

namespace Retrace

/-- The codes of the faults of requests. -/
def RequestFault.codes : List String := ["missing_parameters", "invalid_parameter", "invalid_body"]

/-- A response is a JSON document: the results, or the code of a fault and a message. -/
inductive Response.IsDocumented : Response → Prop
  /-- Results are answered with the status of success. -/
  | success {headers : List (String × String)} (value : Json.Value)
    (htype : ("content-type", "application/json") ∈ headers) :
    IsDocumented ⟨200, headers, .json value⟩
  /-- A fault is told by its code and a message. -/
  | refusal {headers : List (String × String)} {code : String} (message : String)
    (hcode : code ∈ RequestFault.codes) (htype : ("content-type", "application/json") ∈ headers) :
    IsDocumented ⟨422, headers, .json (.record [("error", .text code), ("message", .text message)])⟩

namespace RequestFault

/-- A refusal with one of the codes is a document. -/
theorem isDocumented_refusal {code : String} (h : code ∈ codes) (message : String)
    (headers : List (String × String)) :
    ((refusal code message).withHeaders headers).IsDocumented :=
  .refusal message h (List.mem_append_left headers List.mem_cons_self)

/-- Of every fault a document tells, but of a parameter that is given twice. -/
theorem isDocumented_response_iff (fault : RequestFault) (headers : List (String × String)) :
    (fault.response.withHeaders headers).IsDocumented ↔ ∀ name, fault ≠ .repeated name := by
  cases fault with
  | repeated name =>
    have hstatus : ((RequestFault.repeated name).response.withHeaders headers).status = 400 := rfl
    refine ⟨fun h => ?_, fun h => absurd rfl (h name)⟩
    generalize (RequestFault.repeated name).response.withHeaders headers = response at *
    cases h <;> cases hstatus
  | missing names => exact ⟨fun _ => nofun, fun _ => isDocumented_refusal (by decide) _ _⟩
  | invalid name value => exact ⟨fun _ => nofun, fun _ => isDocumented_refusal (by decide) _ _⟩
  | body fault => exact ⟨fun _ => nofun, fun _ => isDocumented_refusal (by decide) _ _⟩

end RequestFault

namespace Endpoint

open FrameParameters (Repeats)

variable {endpoint : Endpoint} {request : Request} {answer : String → Except FetchFault Artifact}

/-- A caller is told `null` where there is no result, and nowhere else. -/
theorem answer_eq_null_iff {position : Option Position} :
    endpoint.answer position = .null ↔ position = none := by
  cases position with
  | none => exact ⟨fun _ => rfl, fun _ => rfl⟩
  | some position => exact ⟨nofun, nofun⟩

/-- A request hands in a frame to an endpoint: with its parameters, or as one of its lines. -/
inductive HandsIn (request : Request) : Route → Frame → Prop
  /-- The frame of the parameters is handed in. -/
  | frame {submitted : FrameRequest}
    (h : (FrameParameters.ofQuery request.query >>= FrameParameters.request) = .ok submitted) :
    HandsIn request .frame submitted.frame
  /-- The frame that a line states is handed in. -/
  | line {submitted : TraceRequest} {line : String} {frame : Frame}
    (h : TraceRequest.ofRequest request = .ok submitted) (hline : line ∈ submitted.lines)
    (hread : Frame.read? line = some frame) : HandsIn request .trace frame

/-- What is answered to a request that hands something in to an endpoint. -/
structure IsAnswered (endpoint : Endpoint) (answer : String → Except FetchFault Artifact)
    (request : Request) (route : Route) (response? : Option Response) : Prop where
  /-- There is no response exactly if a frame without an answer is handed in. -/
  eq_none_iff : response? = none ↔
    ∃ frame, HandsIn request route frame ∧ endpoint.service.Stops answer frame
  /-- A response is a document, unless a parameter of a frame is given twice. -/
  isDocumented_iff : ∀ response, response? = some response →
    (response.IsDocumented ↔ ¬ (route = .frame ∧ ∃ name, Repeats request.query name))
  /-- Of a parameter of a frame that is given twice a text tells, with another status. -/
  of_repeats : route = .frame → (∃ name, Repeats request.query name) →
    ∃ response, response? = some response ∧ response.status = 400 ∧
      ∃ content, response.body = .text content
  /-- A body that is longer than bodies may be is refused, whatever is in it. -/
  of_tooLong : route = .trace → request.isJson = true →
    TraceRequest.bodyLimit < request.body.length →
      response? = some ((RequestFault.refusal "invalid_body"
        ("invalid request body: " ++
          "Failed to buffer the request body: length limit exceeded")).withHeaders sharingHeaders)
  /-- A frame that fails is `null`, and no other frame is. -/
  of_frame : ∀ submitted response, route = .frame → response? = some response →
    (FrameParameters.ofQuery request.query >>= FrameParameters.request) = .ok submitted →
      ∃ value, response = (Response.ofJson 200 value).withHeaders sharingHeaders ∧
        (value = .null ↔
          ∃ fault, (endpoint.service.tryFrame submitted.frame).run answer = some (.error fault))
  /-- In a list of lines those that fail are `null`, and no others. -/
  of_lines : ∀ submitted response, route = .trace → response? = some response →
    TraceRequest.ofRequest request = .ok submitted →
      ∃ slots, response = (Response.ofJson 200 (.list slots)).withHeaders sharingHeaders ∧
        List.Forall₂ (fun line slot => slot = Json.Value.null ↔
          ∃ fault, (endpoint.service.tryLine line).run answer = some (.error fault))
            submitted.lines slots

/-- A parameter is complained of as given twice exactly if one is. -/
theorem exists_repeated_iff {query : List Char} :
    (∃ name, (FrameParameters.ofQuery query >>= FrameParameters.request) =
      .error (.repeated name)) ↔ ∃ name, Repeats query name := by
  rcases FrameParameters.ofQuery_spec query with ⟨parameters, hquery, hnone, -⟩ | ⟨name, hquery, h⟩
  · rw [hquery]
    refine ⟨fun ⟨name, hrequest⟩ => ?_, fun ⟨name, h⟩ => absurd h (hnone name)⟩
    -- What is made of the parameters has other faults only.
    rcases FrameParameters.request_error_cases hrequest with ⟨_, h⟩ | ⟨_, _, h⟩ <;> cases h
  · rw [hquery]
    exact ⟨fun _ => ⟨name, h⟩, fun _ => ⟨name, rfl⟩⟩

/-- A frame fails where it has an answer and no position. -/
theorem map_toOption_eq_some_none_iff {result : Option (Except ResolveFault Position)} :
    result.map Except.toOption = some none ↔ ∃ fault, result = some (.error fault) := by
  rw [Option.map_eq_some_iff]
  constructor
  · rintro ⟨outcome, rfl, houtcome⟩
    obtain ⟨fault, rfl⟩ := toOption_eq_none_iff.mp houtcome
    exact ⟨fault, rfl⟩
  · rintro ⟨fault, rfl⟩
    exact ⟨_, rfl, rfl⟩

/-- Parameters have no response exactly if they hand in a frame without an answer. -/
theorem run_submitFrame_eq_none_iff : (endpoint.submitFrame request).run answer = none ↔
    ∃ frame, HandsIn request .frame frame ∧ endpoint.service.Stops answer frame := by
  cases hrequest : FrameParameters.ofQuery request.query >>= FrameParameters.request with
  | error fault =>
    rw [run_submitFrame_of_error hrequest]
    -- A request with a fault hands in no frame.
    refine ⟨nofun, ?_⟩
    rintro ⟨_, ⟨hsubmitted⟩, _⟩
    cases hrequest.symm.trans hsubmitted
  | ok submitted =>
    rw [run_submitFrame_of_ok hrequest, Option.map_eq_none_iff, Service.run_frame,
      Option.map_eq_none_iff, Service.run_tryFrame_eq_none_iff]
    -- Only the frame of these parameters is handed in.
    refine ⟨fun hstops => ⟨_, .frame hrequest, hstops⟩, ?_⟩
    rintro ⟨_, ⟨hsubmitted⟩, hstops⟩
    cases hrequest.symm.trans hsubmitted
    exact hstops

/-- Lines have no response exactly if one of them states a frame without an answer. -/
theorem run_submitTrace_eq_none_iff : (endpoint.submitTrace request).run answer = none ↔
    ∃ frame, HandsIn request .trace frame ∧ endpoint.service.Stops answer frame := by
  cases hbody : TraceRequest.ofRequest request with
  | error fault =>
    rw [run_submitTrace_of_error hbody]
    refine ⟨nofun, ?_⟩
    rintro ⟨_, _ | ⟨hsubmitted, _, _⟩, _⟩
    cases hbody.symm.trans hsubmitted
  | ok submitted =>
    rw [run_submitTrace_of_ok hbody, Option.map_eq_none_iff, Service.run_lines_eq_none_iff]
    constructor
    · rintro ⟨line, hline, frame, hread, hstops⟩
      exact ⟨frame, .line hbody hline hread, hstops⟩
    · rintro ⟨frame, _ | ⟨hsubmitted, hline, hread⟩, hstops⟩
      cases hbody.symm.trans hsubmitted
      exact ⟨_, hline, frame, hread, hstops⟩

/-- The parameters of a frame are answered with a document, unless one is given twice. -/
theorem isDocumented_submitFrame_iff {response : Response} (headers : List (String × String))
    (h : (endpoint.submitFrame request).run answer = some response) :
    (response.withHeaders headers).IsDocumented ↔ ¬ ∃ name, Repeats request.query name := by
  rw [← exists_repeated_iff, not_exists]
  cases hrequest : FrameParameters.ofQuery request.query >>= FrameParameters.request with
  | error fault =>
    rw [run_submitFrame_of_error hrequest, Option.some.injEq] at h
    rw [← h, RequestFault.isDocumented_response_iff]
    simp only [Except.error.injEq, ne_eq]
  | ok submitted =>
    rw [run_submitFrame_of_ok hrequest] at h
    obtain ⟨position, -, rfl⟩ := Option.map_eq_some_iff.mp h
    exact ⟨fun _ _ => nofun, fun _ => .success _ (List.mem_append_left _ List.mem_cons_self)⟩

/-- What is wrong with a body is no parameter. -/
theorem ofRequest_ne_repeated (request : Request) (name : String) :
    TraceRequest.ofRequest request ≠ .error (.repeated name) := by
  intro h
  unfold TraceRequest.ofRequest at h
  split at h
  next => cases h
  next =>
    split at h
    next => cases h
    next => split at h <;> cases h

/-- A body is answered with a document, whatever is in it. -/
theorem isDocumented_submitTrace {response : Response} (headers : List (String × String))
    (h : (endpoint.submitTrace request).run answer = some response) :
    (response.withHeaders headers).IsDocumented := by
  cases hbody : TraceRequest.ofRequest request with
  | error fault =>
    rw [run_submitTrace_of_error hbody, Option.some.injEq] at h
    rw [← h, RequestFault.isDocumented_response_iff]
    rintro name rfl
    exact ofRequest_ne_repeated request name hbody
  | ok submitted =>
    rw [run_submitTrace_of_ok hbody] at h
    obtain ⟨positions, -, rfl⟩ := Option.map_eq_some_iff.mp h
    exact .success _ (List.mem_append_left _ List.mem_cons_self)

/-- Each line of a list is answered with its own result. -/
theorem forall₂_answer_of_run_lines {lines : List String} {positions : List (Option Position)}
    (h : (endpoint.service.lines lines).run answer = some positions) :
    List.Forall₂ (fun line slot => slot = Json.Value.null ↔
      ∃ fault, (endpoint.service.tryLine line).run answer = some (.error fault)) lines
        (positions.map endpoint.answer) := by
  rw [List.forall₂_map_right_iff]
  refine (Service.run_lines_eq_some_iff.mp h).imp fun line position hposition => ?_
  rw [Service.run_slot_read?] at hposition
  rw [answer_eq_null_iff, ← map_toOption_eq_some_none_iff, hposition, Option.some.injEq]

/-- What is answered to the parameters of a frame. -/
theorem isAnswered_submitFrame (endpoint : Endpoint)
    (answer : String → Except FetchFault Artifact) (request : Request) :
    IsAnswered endpoint answer request .frame
      (((endpoint.submitFrame request).run answer).map (·.withHeaders sharingHeaders)) where
  eq_none_iff := by rw [Option.map_eq_none_iff, run_submitFrame_eq_none_iff]
  isDocumented_iff response hresponse := by
    obtain ⟨plain, hplain, rfl⟩ := Option.map_eq_some_iff.mp hresponse
    rw [isDocumented_submitFrame_iff sharingHeaders hplain, and_iff_right rfl]
  of_repeats _ hrepeats := by
    obtain ⟨name, hfault⟩ := exists_repeated_iff.mpr hrepeats
    rw [run_submitFrame_of_error hfault]
    exact ⟨_, rfl, rfl, _, rfl⟩
  of_tooLong := nofun
  of_frame submitted response _ hresponse hrequest := by
    rw [run_submitFrame_of_ok hrequest, Option.map_map] at hresponse
    obtain ⟨position, hposition, rfl⟩ := Option.map_eq_some_iff.mp hresponse
    refine ⟨_, rfl, ?_⟩
    -- There is no position exactly if the frame fails.
    rw [Service.run_frame] at hposition
    rw [answer_eq_null_iff, ← map_toOption_eq_some_none_iff, hposition, Option.some.injEq]
  of_lines := nofun

/-- What is answered to a body of lines. -/
theorem isAnswered_submitTrace (endpoint : Endpoint)
    (answer : String → Except FetchFault Artifact) (request : Request) :
    IsAnswered endpoint answer request .trace
      (((endpoint.submitTrace request).run answer).map (·.withHeaders sharingHeaders)) where
  eq_none_iff := by rw [Option.map_eq_none_iff, run_submitTrace_eq_none_iff]
  isDocumented_iff response hresponse := by
    obtain ⟨plain, hplain, rfl⟩ := Option.map_eq_some_iff.mp hresponse
    -- Lines have no parameters.
    exact iff_of_true (isDocumented_submitTrace sharingHeaders hplain) fun h => nomatch h.1
  of_repeats := nofun
  of_tooLong _ hjson hlong := by
    have hbody : TraceRequest.ofRequest request = .error (.body .tooLong) := by
      unfold TraceRequest.ofRequest
      rw [hjson, if_neg (by decide), if_pos hlong]
    rw [run_submitTrace_of_error hbody]
    rfl
  of_frame := nofun
  of_lines submitted response _ hresponse hbody := by
    rw [run_submitTrace_of_ok hbody, Option.map_map] at hresponse
    obtain ⟨positions, hpositions, rfl⟩ := Option.map_eq_some_iff.mp hresponse
    exact ⟨_, rfl, forall₂_answer_of_run_lines hpositions⟩

/-- Whatever is handed in to an endpoint is answered, in development. -/
theorem respond_isAnswered (endpoint : Endpoint) (answer : String → Except FetchFault Artifact)
    {request : Request} {route : Route} (hdev : endpoint.isDevelopment = true)
    (hmethod : request.method = "POST") (hpath : request.path = route.path.toList) :
    IsAnswered endpoint answer request route ((endpoint.respond request).run answer) := by
  rw [run_respond hdev hmethod hpath]
  cases route with
  | frame => exact isAnswered_submitFrame endpoint answer request
  | trace => exact isAnswered_submitTrace endpoint answer request

/-- A frame without a line, a list of a message and a frame that cannot be had, and a frame whose
file is given twice. -/
theorem respond_isAnswered_three_requests :
    let endpoint : Endpoint := ⟨⟨.none, 8, .refused⟩, true, "/srv"⟩
    let incomplete : Request := ⟨"POST", "/_crash?file=a.js", [], []⟩
    let list : Request := .ofLines ["Error: boom", "    at f (a.js:1:0)"]
    let repeated : Request := ⟨"POST", "/_crash?file=a.js&file=a.js&line=1&column=0", [], []⟩
    let respond := fun request => (endpoint.respond request).run (memoryArtifact [])
    (∃ response, respond incomplete = some response ∧ response.IsDocumented) ∧
      respond list =
        some ((Response.ofJson 200 (.list [.null, .null])).withHeaders sharingHeaders) ∧
      ∃ response, respond repeated = some response ∧ response.status = 400 := by
  intro endpoint incomplete list repeated respond
  have hincomplete : IsAnswered endpoint (memoryArtifact []) incomplete .frame _ :=
    respond_isAnswered endpoint (memoryArtifact []) rfl rfl (by decide +kernel)
  have hlist : IsAnswered endpoint (memoryArtifact []) list .trace _ :=
    respond_isAnswered endpoint (memoryArtifact []) rfl rfl (by decide +kernel)
  have hrepeated : IsAnswered endpoint (memoryArtifact []) repeated .frame _ :=
    respond_isAnswered endpoint (memoryArtifact []) rfl rfl (by decide +kernel)
  -- Nothing is stored, so that no frame has a map.
  have answered {request : Request} {route : Route}
      (h : IsAnswered endpoint (memoryArtifact []) request route (respond request)) :
      ∃ response, respond request = some response := by
    refine Option.ne_none_iff_exists'.mp fun hnone => ?_
    obtain ⟨frame, -, -, artifact, _, _, _, hartifact, -⟩ := h.eq_none_iff.mp hnone
    cases hartifact
  refine ⟨?_, ?_, ?_⟩
  · obtain ⟨response, hresponse⟩ := answered hincomplete
    have hnames : (Form.pairs incomplete.query).map Prod.fst = ["file"] := by decide +kernel
    refine ⟨response, hresponse,
      (hincomplete.isDocumented_iff response hresponse).mpr fun ⟨_, name, _, htwice⟩ => ?_⟩
    rw [hnames] at htwice
    exact absurd (Nat.le_trans htwice List.count_le_length) (by decide)
  · obtain ⟨response, hresponse⟩ := answered hlist
    obtain ⟨slots, hslots, hall⟩ := hlist.of_lines _ response rfl hresponse
      (Request.submitsLines_ofLines (by decide +kernel)).body
    obtain _ | ⟨hfirst, _ | ⟨hsecond, _ | _⟩⟩ := hall
    have hmessage : ∃ fault, (endpoint.service.tryLine "Error: boom").run (memoryArtifact []) =
        some (.error fault) := map_toOption_eq_some_none_iff.mp (by decide +kernel)
    have hframe : ∃ fault, (endpoint.service.tryLine "    at f (a.js:1:0)").run
        (memoryArtifact []) = some (.error fault) :=
      map_toOption_eq_some_none_iff.mp (by decide +kernel)
    rw [hfirst.mpr hmessage, hsecond.mpr hframe] at hslots
    rw [hresponse, hslots]
  · obtain ⟨response, hresponse, hstatus, -⟩ :=
      hrepeated.of_repeats rfl ⟨"file", by decide, by decide +kernel⟩
    exact ⟨response, hresponse, hstatus⟩

/-- A file that is given twice is answered with a text and not with a document. -/
theorem not_isDocumented_of_file_twice :
    let endpoint : Endpoint := ⟨⟨.none, 8, .refused⟩, true, "/srv"⟩
    let request : Request := ⟨"POST", "/_crash?file=/a.js&file=/a.js&line=1&column=1", [], []⟩
    endpoint.isDevelopment = true ∧ request.method = "POST" ∧
      request.path = Route.frame.path.toList ∧
      ∃ response, (endpoint.respond request).run (memoryArtifact []) = some response ∧
        ¬ response.IsDocumented := by
  intro endpoint request
  have hpath : request.path = Route.frame.path.toList := by decide +kernel
  have hrepeats : Repeats request.query "file" := ⟨by decide, by decide +kernel⟩
  obtain ⟨name, hfault⟩ := exists_repeated_iff.mpr ⟨"file", hrepeats⟩
  refine ⟨rfl, rfl, hpath, (RequestFault.repeated name).response.withHeaders sharingHeaders, ?_, ?_⟩
  · rw [run_respond rfl rfl hpath, submit, run_submitFrame_of_error hfault, Option.map_some]
  · rw [isDocumented_submitFrame_iff sharingHeaders
      (@run_submitFrame_of_error endpoint request (memoryArtifact []) _ hfault)]
    exact not_not_intro ⟨"file", hrepeats⟩

end Endpoint

end Retrace
