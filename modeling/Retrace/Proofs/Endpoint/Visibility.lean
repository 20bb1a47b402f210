import Mathlib.Data.List.Forall2
import Retrace.Artifact.Memory
import Retrace.Endpoint.Routes

/-!
# Visibility of endpoints

The environment decides whether there are endpoints. Outside of development nothing is asked for and
nothing is found, so that what is answered does not depend on what is there (`Response.IsHidden`).
It does depend on the requests in one way: to a request that names an endpoint and a method which
endpoints do not support, the supported methods are told even then (`Request.TellsMethods`), and
from this alone two runs can be told apart (`respondHidden_eq_iff`). In development every response
may be read by pages of other origins (`isShared_respond`).
-/

namespace Retrace

/-- A request names an endpoint and a method that endpoints do not support. -/
def Request.TellsMethods (request : Request) : Prop :=
  (∃ route : Route, request.path = route.path.toList) ∧
    request.method ∉ ["GET", "HEAD", "OPTIONS", "POST"]

/-- A response says that nothing is found, and no more than that but for the methods of
endpoints. -/
structure Response.IsHidden (request : Request) (response : Response) : Prop where
  /-- Nothing is found. -/
  status : response.status = 404
  /-- There is no body. -/
  body : response.body = .empty
  /-- The methods are told to a request that names an endpoint and none of them. -/
  of_tellsMethods : request.TellsMethods → response.headers = [("allow", "GET,HEAD,OPTIONS,POST")]
  /-- To any other request no headers are given. -/
  of_not_tellsMethods : ¬ request.TellsMethods → response.headers = []

/-- A response may be read by pages of other origins. -/
structure Response.IsShared (response : Response) : Prop where
  /-- All origins are let in. -/
  origin : ("access-control-allow-origin", "*") ∈ response.headers
  /-- The methods are let in. -/
  methods : ("access-control-allow-methods", "GET, POST, PUT, DELETE, PATCH, OPTIONS, HEAD") ∈
    response.headers
  /-- The headers are let in. -/
  headers : ("access-control-allow-headers", "Content-Type, Accept, Authorization") ∈
    response.headers

namespace Endpoint

variable {endpoint : Endpoint} {request : Request} {answer : String → Except FetchFault Artifact}

/-- An endpoint is found where its path is named. -/
theorem isSome_ofPath?_iff {path : List Char} :
    (Route.ofPath? path).isSome = true ↔ ∃ route : Route, path = route.path.toList := by
  unfold Route.ofPath?
  rw [List.find?_isSome]
  constructor
  · rintro ⟨route, -, hpath⟩
    exact ⟨route, (of_decide_eq_true hpath).symm⟩
  · rintro ⟨route, rfl⟩
    exact ⟨route, by cases route <;> decide, decide_eq_true rfl⟩

/-- A method is supported if it is one of those that are told. -/
theorem ofName_eq_unsupported_iff {name : String} :
    Method.ofName name = .unsupported ↔ name ∉ ["GET", "HEAD", "OPTIONS", "POST"] := by
  unfold Method.ofName
  simp only [List.mem_cons, List.not_mem_nil, or_false, not_or]
  split
  next h => simp; tauto
  next h =>
    split
    next hpost => simp [hpost]
    next hpost => simp; tauto

/-! ### Outside of development -/

/-- Nothing is found outside of development. -/
theorem isHidden_respondHidden (request : Request) :
    (respondHidden request).IsHidden request := by
  have hcondition : ((Route.ofPath? request.path).isSome = true ∧
      Method.ofName request.method = .unsupported) ↔ request.TellsMethods := by
    rw [isSome_ofPath?_iff, ofName_eq_unsupported_iff, Request.TellsMethods]
  unfold respondHidden
  dsimp only
  refine ⟨rfl, rfl, fun h => ?_, fun h => ?_⟩
  · rw [if_pos (hcondition.mpr h)]
    rfl
  · rw [if_neg (hcondition.not.mpr h)]
    rfl

/-- Two requests are answered alike exactly if the methods are told to both of them or to none. -/
theorem respondHidden_eq_iff {other : Request} :
    respondHidden request = respondHidden other ↔
      (request.TellsMethods ↔ other.TellsMethods) := by
  obtain ⟨hstatus, hbody, htold, huntold⟩ := isHidden_respondHidden request
  obtain ⟨hstatus', hbody', htold', huntold'⟩ := isHidden_respondHidden other
  have heq : respondHidden request = respondHidden other ↔
      (respondHidden request).headers = (respondHidden other).headers := by
    refine ⟨fun h => h ▸ rfl, fun h => ?_⟩
    calc respondHidden request
        = ⟨404, (respondHidden request).headers, .empty⟩ := by rw [← hstatus, ← hbody]
      _ = ⟨404, (respondHidden other).headers, .empty⟩ := by rw [h]
      _ = respondHidden other := by rw [← hstatus', ← hbody']
  rw [heq]
  by_cases h : request.TellsMethods <;> by_cases h' : other.TellsMethods
  · simp [htold h, htold' h', h, h']
  · simp [htold h, huntold' h', h, h']
  · simp [huntold h, htold' h', h, h']
  · simp [huntold h, huntold' h', h, h']

/-- Outside of development nothing is asked for, and what is answered is told by the requests. -/
theorem run_respond_hidden (hdev : endpoint.isDevelopment = false) (requests : List Request)
    (answer : String → Except FetchFault Artifact) :
    (Plan.sequence (requests.map endpoint.respond)).asked answer = [] ∧
      (Plan.sequence (requests.map endpoint.respond)).run answer =
        requests.map fun request => some (respondHidden request) := by
  have hrespond (request : Request) :
      endpoint.respond request = .done (some (respondHidden request)) := by
    unfold respond
    rw [hdev]
    rfl
  rw [Plan.asked_sequence, Plan.run_sequence, List.map_map, List.flatMap_map]
  refine ⟨List.flatMap_eq_nil_iff.mpr fun request _ => ?_, List.map_congr_left fun request _ => ?_⟩
  · rw [hrespond]
    rfl
  · rw [Function.comp_apply, hrespond]
    rfl

/-! ### In development -/

/-- In development every response may be read by pages of other origins. -/
theorem isShared_respond (hdev : endpoint.isDevelopment = true) (request : Request)
    {response : Response} (h : (endpoint.respond request).run answer = some response) :
    response.IsShared := by
  have hresponse : (endpoint.respond request).run answer =
      ((endpoint.respondOpenly request).run answer).map (·.withHeaders sharingHeaders) := by
    unfold respond
    rw [if_pos hdev, Plan.run_bind]
    rfl
  rw [hresponse] at h
  -- Whatever the response is otherwise, the headers are put behind its own.
  obtain ⟨plain, -, rfl⟩ := Option.map_eq_some_iff.mp h
  have hmem {header : String × String} (h : header ∈ sharingHeaders) :
      header ∈ (plain.withHeaders sharingHeaders).headers :=
    List.mem_append_right _ h
  exact ⟨hmem (by decide), hmem (by decide), hmem (by decide)⟩

/-- The environment decides what is to be seen. In any other one than development nothing is asked
for and nothing is found, and two runs are told apart by the requests to which the methods are told,
and by nothing else. In development all responses are shared. -/
theorem respond_visibility (engine : Pattern.Engine) (settings : ResolverSettings)
    {endpoint : Endpoint} (h : ofSettings? engine settings = some endpoint)
    (requests : List Request) :
    let plan := Plan.sequence (requests.map endpoint.respond)
    (settings.environment ≠ "development" →
      (∀ answer, plan.asked answer = [] ∧
        List.Forall₂ (fun request response? =>
          ∃ response, response? = some response ∧ response.IsHidden request) requests
            (plan.run answer)) ∧
      ∀ answer answer' (others : List Request),
        plan.run answer = (Plan.sequence (others.map endpoint.respond)).run answer' ↔
          List.Forall₂ (fun request other => request.TellsMethods ↔ other.TellsMethods)
            requests others) ∧
      (settings.environment = "development" → ∀ answer,
        List.Forall₂ (fun _ response? =>
          ∀ response, response? = some response → response.IsShared) requests
            (plan.run answer)) := by
  intro plan
  have hdevelopment : endpoint.isDevelopment = decide (settings.environment = "development") := by
    obtain ⟨service, -, rfl⟩ := Option.map_eq_some_iff.mp h
    rfl
  refine ⟨fun hne => ?_, fun heq answer => ?_⟩
  · have hdev : endpoint.isDevelopment = false := by rw [hdevelopment, decide_eq_false hne]
    refine ⟨fun answer => ?_, fun answer answer' others => ?_⟩
    · obtain ⟨hasked, hrun⟩ := run_respond_hidden hdev requests answer
      refine ⟨hasked, ?_⟩
      rw [hrun, List.forall₂_map_right_iff, List.forall₂_same]
      exact fun request _ => ⟨_, rfl, isHidden_respondHidden request⟩
    · rw [(run_respond_hidden hdev requests answer).2, (run_respond_hidden hdev others answer').2,
        ← List.forall₂_eq_eq_eq, List.forall₂_map_left_iff, List.forall₂_map_right_iff]
      simp only [Option.some.injEq, respondHidden_eq_iff]
  · have hdev : endpoint.isDevelopment = true := by rw [hdevelopment, decide_eq_true heq]
    rw [Plan.run_sequence, List.map_map, List.forall₂_map_right_iff, List.forall₂_same]
    exact fun request _ response => isShared_respond hdev request

/-- Another environment by one letter, with different requests and stores, and development. -/
theorem respond_visibility_two_environments :
    let endpoint := fun isDevelopment => (⟨⟨.none, 8, .refused⟩, isDevelopment, "/srv"⟩ : Endpoint)
    let plan := fun isDevelopment (requests : List Request) =>
      Plan.sequence (requests.map (endpoint isDevelopment).respond)
    let store := memoryArtifact [("a.js", "f()")]
    let frame : Request := ⟨"POST", "/_crash?file=a.js&line=1&column=0", [], []⟩
    let unknown : Request := ⟨"PUT", "/", [], []⟩
    (plan false [frame]).asked store = [] ∧
      (plan false [frame]).run store = (plan false [unknown]).run (memoryArtifact []) ∧
      List.Forall₂ (fun _ response? => ∀ response, response? = some response → response.IsShared)
        [frame, unknown] ((plan true [frame, unknown]).run store) := by
  intro endpoint plan store frame unknown
  have hclosed : ofSettings? .standard ⟨"Development", "/srv", 10, 8, []⟩ = some (endpoint false) :=
    rfl
  have hopen : ofSettings? .standard ⟨"development", "/srv", 10, 8, []⟩ = some (endpoint true) :=
    rfl
  obtain ⟨hhidden, -⟩ := respond_visibility _ _ hclosed [frame]
  obtain ⟨hasked, hsame⟩ := hhidden (by decide)
  obtain ⟨-, hshared⟩ := respond_visibility _ _ hopen [frame, unknown]
  have hframe : ¬ frame.TellsMethods := fun h => h.2 (by decide)
  have hunknown : ¬ unknown.TellsMethods := by
    rintro ⟨⟨route, hpath⟩, -⟩
    cases route <;> exact absurd hpath (by decide +kernel)
  refine ⟨(hasked store).1, (hsame _ _ _).mpr (.cons ?_ .nil), hshared rfl store⟩
  exact iff_of_false hframe hunknown

/-- A method that endpoints do not support is answered in another way than one that they do, where
nothing should be found either way. -/
theorem hidden_ne_of_put :
    let settings : ResolverSettings := ⟨"production", "/srv", 10, 8, []⟩
    let endpoint : Endpoint := ⟨⟨.none, 8, .refused⟩, false, "/srv"⟩
    let run := fun (requests : List Request) =>
      (Plan.sequence (requests.map endpoint.respond)).run (memoryArtifact [])
    ofSettings? .standard settings = some endpoint ∧ settings.environment ≠ "development" ∧
      run [⟨"GET", "/_crash", [], []⟩] ≠ run [⟨"PUT", "/_crash", [], []⟩] := by
  intro settings endpoint run
  have hput : Request.TellsMethods ⟨"PUT", "/_crash", [], []⟩ :=
    ⟨⟨.frame, by decide +kernel⟩, by decide⟩
  have hget : ¬ Request.TellsMethods ⟨"GET", "/_crash", [], []⟩ := fun h => h.2 (by decide)
  refine ⟨rfl, by decide, fun hsame => ?_⟩
  have hrun (requests : List Request) :
      run requests = requests.map fun request => some (respondHidden request) :=
    (run_respond_hidden rfl requests _).2
  rw [hrun, hrun] at hsame
  have hfirst := Option.some.inj (List.head_eq_of_cons_eq hsame)
  exact hget ((respondHidden_eq_iff.mp hfirst).mpr hput)

end Endpoint

end Retrace
