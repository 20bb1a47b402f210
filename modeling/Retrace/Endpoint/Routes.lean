import Retrace.Endpoint.MediaType
import Retrace.Endpoint.Parameters
import Retrace.Settings.Validation
import Retrace.Wire

/-!
# Endpoints

The two endpoints of the server: one resolves a single frame, one the lines of a trace. Both answer
in development only; elsewhere nothing is found, whatever is asked, and nothing is fetched. In
development every response lets pages of other origins read it.

A request that hands in a frame without an answer is not responded to.
-/

namespace Retrace

/-- An endpoint. -/
inductive Route where
  /-- Resolves a single frame. -/
  | frame
  /-- Resolves the lines of a trace. -/
  | trace
  deriving Repr, DecidableEq

/-- The path of an endpoint. -/
def Route.path : Route → String
  | .frame => "/_crash"
  | .trace => "/_crash/stacktrace"

/-- The endpoint at a path. -/
def Route.ofPath? (path : List Char) : Option Route :=
  [Route.frame, .trace].find? (·.path.toList = path)

/-- What a method asks of an endpoint. -/
inductive Method where
  /-- Whether the endpoint is there. -/
  | probe
  /-- To resolve what is submitted. -/
  | submit
  /-- Something that endpoints do not do. -/
  | unsupported
  deriving Repr, DecidableEq

/-- What a method by its name asks. -/
def Method.ofName (name : String) : Method :=
  if name = "GET" ∨ name = "HEAD" ∨ name = "OPTIONS" then .probe
  else if name = "POST" then .submit
  else .unsupported

/-- The headers that tell which methods are supported. -/
def allowHeaders : List (String × String) := [("allow", "GET,HEAD,OPTIONS,POST")]

/-- The headers that let pages of other origins read a response. -/
def sharingHeaders : List (String × String) := [
  ("access-control-allow-origin", "*"),
  ("access-control-allow-methods", "GET, POST, PUT, DELETE, PATCH, OPTIONS, HEAD"),
  ("access-control-allow-headers", "Content-Type, Accept, Authorization")]

/-- Is the body of a request declared as JSON? -/
def Request.isJson (request : Request) : Bool :=
  (request.header? "content-type").any fun value => (MediaType.read? value.toList).any (·.isJson)

/-- The lines of a trace, as they are submitted. -/
structure TraceRequest where
  /-- The lines. -/
  lines : List String
  deriving Repr, DecidableEq

namespace TraceRequest

/-- How submitted lines are written as a record. -/
def shape : Json.Shape TraceRequest where
  members := [.of "stacktrace" .required (.list .text) fun v _ => ⟨v⟩]

/-- Reads submitted lines. -/
def reader : Json.Reader TraceRequest := shape.reader ⟨[]⟩

/-- The most bytes that a body may have: two binary megabytes. -/
def bodyLimit : Nat := 2 * 1024 * 1024

/-- The lines that the body of a request submits. -/
def ofRequest (request : Request) : Except RequestFault TraceRequest :=
  if !request.isJson then .error (.body .undeclared)
  else if bodyLimit < request.body.length then .error (.body .tooLong)
  else
    match Json.read reader request.body with
    | .ok lines => .ok lines
    | .error .mismatched => .error (.body .mismatched)
    | .error _ => .error (.body .malformed)

end TraceRequest

/-- What endpoints work with. -/
structure Endpoint where
  /-- Resolves frames. -/
  service : Service
  /-- Does the server run for development? -/
  isDevelopment : Bool
  /-- The directory from which files are seen in answers. -/
  root : String

namespace Endpoint

/-- The endpoint that settings describe, when every pattern can be compiled. -/
def ofSettings? (engine : Pattern.Engine) (settings : ResolverSettings) : Option Endpoint :=
  (settings.service? engine).map fun service =>
    ⟨service, settings.isDevelopment, settings.workingRoot⟩

/-- What a caller is told of the result of a frame. -/
def answer (endpoint : Endpoint) (position : Option Position) : Json.Value :=
  .ofOption (fun p => (FrameAnswer.ofPosition endpoint.root p).toJson) position

/-- Resolves the single frame that a request submits. -/
def submitFrame (endpoint : Endpoint) (request : Request) : Fetching (Option Response) :=
  match FrameParameters.ofQuery request.query >>= FrameParameters.request with
  | .error fault => .done (some fault.response)
  | .ok submitted =>
    (endpoint.service.frame submitted.frame).bind fun result =>
      .done (result.map fun position => .ofJson 200 (endpoint.answer position))

/-- Resolves the lines that a request submits. -/
def submitTrace (endpoint : Endpoint) (request : Request) : Fetching (Option Response) :=
  match TraceRequest.ofRequest request with
  | .error fault => .done (some fault.response)
  | .ok submitted =>
    (endpoint.service.lines submitted.lines).bind fun results =>
      .done (results.map fun positions => .ofJson 200 (.list (positions.map endpoint.answer)))

/-- Resolves what a request submits to an endpoint. -/
def submit (endpoint : Endpoint) (request : Request) : Route → Fetching (Option Response)
  | .frame => endpoint.submitFrame request
  | .trace => endpoint.submitTrace request

/-- The response in development, but for the headers that every such response has. -/
def respondOpenly (endpoint : Endpoint) (request : Request) : Fetching (Option Response) :=
  match Route.ofPath? request.path with
  | none => .done (some (.ofStatus 404))
  | some route =>
    match Method.ofName request.method with
    | .probe => .done (some (.ofStatus 204))
    | .submit => endpoint.submit request route
    | .unsupported => .done (some ((Response.ofStatus 405).withHeaders allowHeaders))

/-- The response outside of development. -/
def respondHidden (request : Request) : Response :=
  -- The methods of an endpoint are told even where it is hidden.
  let isRefused := Method.ofName request.method = .unsupported
  (Response.ofStatus 404).withHeaders
    (if (Route.ofPath? request.path).isSome ∧ isRefused then allowHeaders else [])

/-- The response to a request. -/
def respond (endpoint : Endpoint) (request : Request) : Fetching (Option Response) :=
  if endpoint.isDevelopment then
    (endpoint.respondOpenly request).bind fun response =>
      .done (response.map (·.withHeaders sharingHeaders))
  else .done (some (respondHidden request))

end Endpoint

end Retrace
