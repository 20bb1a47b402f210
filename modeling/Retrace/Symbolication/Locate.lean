import Retrace.Artifact.Basic
import Retrace.Directive
import Retrace.SourceMap.Document
import Retrace.Symbolication.Fault

/-!
# Locating source maps

How the source map of an artifact is had. A map that the artifact holds itself is decoded on the
spot; any other is fetched from where the reference points, and nothing else is. An artifact without
a directive has no map.
-/

namespace Retrace

/-- Reads the source map of an inline payload. -/
def SourceMap.readInline (payload : String) : Except MapFault SourceMap := do
  let bytes ← (Base64.decode (Text.Utf8.encode (Text.trim payload.toList))).mapError .base64
  SourceMap.read bytes

/-- Does a reference start as a data URL? -/
def isDataUrl (reference : String) : Bool :=
  "data:".toList.isPrefixOf reference.toList

namespace Artifact

/-- Asks for the artifact at a location. -/
def fetch (location : String) : Fetching (Except ResolveFault Artifact) :=
  .ask location fun reply => .done (reply.mapError (.unavailable location))

/-- Fetches the source map that a reference inside an artifact points at. -/
def fetchMap (artifact : Artifact) (reference : String) :
    Fetching (Except ResolveFault SourceMap) :=
  match artifact.place.resolve reference with
  | .error fault => .done (.error (.unavailable reference fault))
  | .ok location => (fetch location).bind fun reply =>
    .done <| do
      let document ← reply
      (SourceMap.readText document.text).mapError .malformedMap

/-- The source map of an artifact. -/
def locateMap (artifact : Artifact) : Fetching (Except ResolveFault (Option SourceMap)) :=
  match Directive.find? artifact.text with
  | none => .done (.ok none)
  | some (.inline payload) =>
    .done (((SourceMap.readInline payload).mapError .malformedMap).map some)
  | some (.external reference) =>
    if isDataUrl reference then
      .done (.error (.malformedMap (.ofDataUrl reference.toList)))
    else (artifact.fetchMap reference).bind fun result => .done (result.map some)

end Artifact

end Retrace
