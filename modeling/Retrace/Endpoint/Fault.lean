import Retrace.Endpoint.Message
import Retrace.Text.Quoted

/-!
# Faults of requests

Why a request is refused, and how it is answered. Everything that is wrong with a request is said in
a JSON document, but for a parameter that occurs twice.
-/

namespace Retrace

/-- Why the body of a request cannot be read. -/
inductive BodyFault where
  /-- It is not declared as JSON. -/
  | undeclared
  /-- It has more bytes than it may have. -/
  | tooLong
  /-- It is not well-formed JSON. -/
  | malformed
  /-- It is JSON of another shape. -/
  | mismatched
  deriving Repr, DecidableEq

/-- What a message says of a fault. -/
def BodyFault.message : BodyFault → String
  | .undeclared => "Expected request with \x60Content-Type: application/json\x60"
  | .tooLong => "Failed to buffer the request body: length limit exceeded"
  | .malformed => "Failed to parse the request body as JSON"
  | .mismatched => "Failed to deserialize the JSON body into the target type"

/-- Why a request is refused. -/
inductive RequestFault where
  /-- A parameter occurs twice. -/
  | repeated (name : String)
  /-- Parameters are missing. -/
  | missing (names : List String)
  /-- The value of a parameter is no number. -/
  | invalid (name value : String)
  /-- The body cannot be read. -/
  | body (fault : BodyFault)
  deriving Repr, DecidableEq

namespace RequestFault

/-- What a message says of a fault. -/
def message : RequestFault → String
  | .repeated name => s!"Failed to deserialize query string: duplicate field \x60{name}\x60"
  | .missing names =>
    let list := ", ".intercalate names
    s!"missing required parameters: {list}"
  | .invalid name value =>
    let shown := Text.quoted value
    s!"invalid value for {name}: {shown}"
  | .body fault => s!"invalid request body: {fault.message}"

/-- The response that refuses a request for one of the reasons that have a code. -/
def refusal (code message : String) : Response :=
  .ofJson 422 (.record [("error", .text code), ("message", .text message)])

/-- The response to a request with a fault. -/
def response (fault : RequestFault) : Response :=
  match fault with
  | .repeated _ => .ofText 400 fault.message
  | .missing _ => refusal "missing_parameters" fault.message
  | .invalid _ _ => refusal "invalid_parameter" fault.message
  | .body _ => refusal "invalid_body" fault.message

end RequestFault

end Retrace
