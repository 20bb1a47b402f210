import Retrace.Artifact.Fault
import Retrace.Path
import Retrace.Plan
import Retrace.Url.Read

/-!
# Artifacts

An artifact is the text of a bundled file or of a source map together with the place it was had
from, which references inside it are relative to. Locations are texts: those that start as URLs of
the web are fetched there, all others are local.
-/

namespace Retrace

/-- Where an artifact was had from. -/
inductive Place where
  /-- A path of the file system. -/
  | local (path : String)
  /-- A page of the web. -/
  | remote (url : Url)
  deriving Repr, DecidableEq

/-- A text and where it was had from. -/
structure Artifact where
  /-- The text. -/
  text : String
  /-- Where it was had from. -/
  place : Place
  deriving Repr, DecidableEq

/-- The path of a local artifact. -/
def Place.path? : Place → Option String
  | .local path => some path
  | .remote _ => none

/-- The URL of a remote artifact. -/
def Place.url? : Place → Option Url
  | .local _ => none
  | .remote url => some url

/-- A plan that asks for the artifacts at locations. -/
abbrev Fetching (α : Type) := Plan String (fun _ => Except FetchFault Artifact) α

/-- Is the letter one of two, or the other form of a small s? -/
def isLetter (lower upper c : Char) : Bool :=
  c = lower || c = upper || (lower = 's' && c = 'ſ')

/-- Is a location fetched from the web? Its scheme is read in any case. -/
def isRemote (location : String) : Bool :=
  match location.toList with
  | h :: t :: t' :: p :: rest =>
    isLetter 'h' 'H' h && isLetter 't' 'T' t && isLetter 't' 'T' t' && isLetter 'p' 'P' p &&
      match rest with
      | ':' :: '/' :: '/' :: _ => true
      | s :: ':' :: '/' :: '/' :: _ => isLetter 's' 'S' s
      | _ => false
  | _ => false

namespace Place

/-- Where a reference inside an artifact points. A reference to the web stands for itself; a local
one starts at the directory of the artifact. -/
def resolve (place : Place) (reference : String) : Except FetchFault String :=
  if isRemote reference then .ok reference
  else
    match place with
    | .remote url => ((url.join reference).map Url.toText).mapError .url
    | .local path =>
      let directory := (Path.parent? path.toList).getD []
      .ok (String.ofList (Path.join directory reference.toList))

end Place

end Retrace
