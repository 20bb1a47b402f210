import Retrace.Json.Record
import Retrace.SourceMap.Fault
import Retrace.Text.Lines

/-!
# Source map documents

A source map as its JSON document states it: the version of the format, the sources with their
common root and, where they are embedded, their contents, and the mappings as text. Only version
three is read.
-/

namespace Retrace

/-- A source map. -/
structure SourceMap where
  /-- The version of the format. -/
  version : UInt32
  /-- What all sources are relative to. -/
  sourceRoot : Option String
  /-- The names of the sources. -/
  sources : List String
  /-- The contents of the sources, as far as they are embedded. -/
  sourcesContent : Option (List (Option String))
  /-- The mappings. -/
  mappings : String
  deriving Repr, DecidableEq

namespace SourceMap

/-- The version that is read. -/
def supportedVersion : UInt32 := 3

/-- The source map that says nothing. -/
def blank : SourceMap := ⟨0, none, [], none, ""⟩

/-- How a source map is written as a record. -/
def shape : Json.Shape SourceMap where
  members := [
    .of "version" .required .word fun v m => { m with version := v },
    .of "sourceRoot" .optional (.optional .text) fun v m => { m with sourceRoot := v },
    .of "sources" .required (.list .text) fun v m => { m with sources := v },
    .of "sourcesContent" .optional (.optional (.list (.optional .text))) fun v m =>
      { m with sourcesContent := v },
    .of "mappings" .required .text fun v m => { m with mappings := v }]

/-- Refuses another version than the one that is read. -/
def checkVersion (m : SourceMap) : Except MapFault Unit :=
  if m.version = supportedVersion then .ok () else .error (.version m.version)

/-- Reads a document. -/
def read (document : List UInt8) : Except MapFault SourceMap := do
  let m ← (Json.read (shape.reader blank) document).mapError .json
  m.checkVersion
  return m

/-- Reads a document that is given as text. -/
def readText (document : String) : Except MapFault SourceMap :=
  read (Text.Utf8.encode document.toList)

/-- Is the content of any source embedded? -/
def hasSourcesContent (m : SourceMap) : Bool :=
  (m.sourcesContent.getD []).any Option.isSome

/-- The embedded content of a source. -/
def contentOf? (m : SourceMap) (index : UInt32) : Option String := do
  let contents ← m.sourcesContent
  (← contents[index.toNat]?)

/-- The name of a source behind the common root. Slashes at the end of the root do not count. -/
def sourcePath (m : SourceMap) (source : String) : String :=
  match m.sourceRoot with
  | none => source
  | some root =>
    if root.isEmpty then source
    else String.ofList (Text.dropTrailing (· = '/') root.toList) ++ "/" ++ source

end SourceMap

end Retrace
