import Retrace.Artifact.Basic

/-!
# Artifacts in memory

A store that has texts under their locations. A location that it does not have is not looked at any
further.
-/

namespace Retrace

/-- The artifact at a location of a store. -/
def memoryArtifact (store : List (String × String)) (location : String) :
    Except FetchFault Artifact :=
  match store.lookup location with
  | none => .error (.file .absent)
  | some text =>
    if isRemote location then
      match Url.read location with
      | .ok url => .ok ⟨text, .remote url⟩
      | .error fault => .error (.url fault)
    else .ok ⟨text, .local location⟩

end Retrace
