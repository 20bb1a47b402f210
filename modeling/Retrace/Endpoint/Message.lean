import Retrace.Json.Value

/-!
# Requests and responses

What the server is asked and what it answers. The target of a request is a path with a query, which
the scheme and the host of a URL may stand before; a fragment does not count.
-/

namespace Retrace

/-- A request. -/
structure Request where
  /-- The method. -/
  method : String
  /-- The target. -/
  target : String
  /-- The headers, in order. -/
  headers : List (String × String)
  /-- The body. -/
  body : List UInt8

namespace Request

/-- The most bytes that a target can have. There are no requests with longer ones. -/
def targetLimit : Nat := 65534

/-- The path of a target and what follows it. A URL without a path has the path of the root. -/
def fromPath (target : List Char) : List Char :=
  match target with
  | '/' :: _ => target
  | _ =>
    match target.dropWhile (· ≠ ':') with
    | ':' :: '/' :: '/' :: rest =>
      match rest.dropWhile fun c => c ≠ '/' && c ≠ '?' with
      | '/' :: path => '/' :: path
      | path => '/' :: path
    | _ => []

/-- The path and the query of a request, without its fragment. -/
def resource (request : Request) : List Char :=
  fromPath (request.target.toList.takeWhile (· ≠ '#'))

/-- The path of a request. -/
def path (request : Request) : List Char :=
  request.resource.takeWhile (· ≠ '?')

/-- The query of a request, empty when there is none. -/
def query (request : Request) : List Char :=
  (request.resource.dropWhile (· ≠ '?')).drop 1

/-- The first header of a name, given in lower case. -/
def header? (request : Request) (name : String) : Option String :=
  (request.headers.find? fun header => header.1.map Char.toLower = name).map Prod.snd

end Request

/-- The body of a response. -/
inductive Response.Body where
  /-- No body. -/
  | empty
  /-- A text. -/
  | text (content : String)
  /-- A JSON document. -/
  | json (value : Json.Value)

/-- A response. -/
structure Response where
  /-- The status. -/
  status : Nat
  /-- The headers, their names in lower case. -/
  headers : List (String × String)
  /-- The body. -/
  body : Response.Body

namespace Response

/-- A response without a body. -/
def ofStatus (status : Nat) : Response := ⟨status, [], .empty⟩

/-- A response with a text. -/
def ofText (status : Nat) (content : String) : Response :=
  ⟨status, [("content-type", "text/plain; charset=utf-8")], .text content⟩

/-- A response with a JSON document. -/
def ofJson (status : Nat) (value : Json.Value) : Response :=
  ⟨status, [("content-type", "application/json")], .json value⟩

/-- A response with further headers. -/
def withHeaders (headers : List (String × String)) (response : Response) : Response :=
  { response with headers := response.headers ++ headers }

end Response

end Retrace
