import Retrace.Artifact.Basic

/-!
# Loading artifacts

How a location is loaded: as a page of the web, as the path of a local file's URL, or as a path. A
file must be UTF-8; a page is read leniently, and its artifact keeps the URL first asked for even
when the web answers from another one.
-/

namespace Retrace

/-- Where the bytes of an artifact are asked for. -/
inductive Source where
  /-- A file. -/
  | file (path : String)
  /-- A page of the web. -/
  | page (url : Url)

/-- What the web answers. -/
inductive WebReply where
  /-- The request cannot be sent. -/
  | unreachable
  /-- The status and the body of the last answer. -/
  | answer (status : Nat) (body : List UInt8)

/-- What is replied to a question for bytes. -/
def Source.Reply : Source → Type
  | .file _ => Except FileFault (List UInt8)
  | .page _ => WebReply

/-- A plan that asks for the bytes of files and pages. -/
abbrev Reading (α : Type) := Plan Source Source.Reply α

/-- The text of a file. -/
def fileText (path : String) : Reading (Except FileFault String) :=
  .ask (.file path) fun reply =>
    .done <|
      match (reply : Except FileFault (List UInt8)) with
      | .error fault => .error fault
      | .ok bytes =>
        match Text.Utf8.decode? bytes with
        | some text => .ok text
        | none => .error .notText

/-- The text that the web answers for a URL. -/
def WebReply.text (url : Url) : WebReply → Except FetchFault String
  | .unreachable => .error (.web url.withoutUser.toText .unreachable)
  | .answer status body =>
    if 400 ≤ status ∧ status < 600 then .error (.web url.withoutUser.toText (.status status))
    else .ok (String.ofList (Text.Utf8.lenient body))

/-- Loads a page. -/
def loadPage (url : Url) : Reading (Except FetchFault Artifact) :=
  .ask (.page url) fun reply =>
    .done ((WebReply.text url reply).map fun text => ⟨text, .remote url⟩)

/-- Loads a file. -/
def loadFile (path : String) : Reading (Except FetchFault Artifact) := do
  let text ← fileText path
  return (text.mapError .file).map fun text => ⟨text, .local path⟩

/-- The local path that a location stands for. -/
def localPath (location : String) : Except FetchFault String :=
  if "file://".toList.isPrefixOf location.toList then
    match Url.read location with
    | .error fault => .error (.url fault)
    | .ok url =>
      match url.filePath? with
      | some path => .ok (String.ofList (Text.Utf8.lenient path))
      | none => .error (.notLocal location)
  else .ok location

/-- Loads the artifact at a location. -/
def load (location : String) : Reading (Except FetchFault Artifact) :=
  if isRemote location then
    match Url.read location with
    | .error fault => .done (.error (.url fault))
    | .ok url => loadPage url
  else
    match localPath location with
    | .error fault => .done (.error fault)
    | .ok path => loadFile path

/-- Loads the artifacts that a plan asks for. -/
def Fetching.load {α : Type} (plan : Fetching α) : Reading α :=
  plan.perform Retrace.load

end Retrace
