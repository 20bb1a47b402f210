import Retrace.Pattern.Engine

/-!
# Cleaning paths

Some bundlers put text into the files of frames that belongs to no path. A cleanup is a list of
rules, compiled from patterns by an engine; each in turn takes off its first match.
-/

namespace Retrace

/-- The rules that clean paths. -/
structure Cleanup where
  /-- The rules whose first match is removed, in order. -/
  rules : List Pattern.Rule

namespace Cleanup

/-- The cleanup that leaves paths as they are. -/
def none : Cleanup := ⟨[]⟩

/-- The rules of patterns, all of which must be compiled. -/
def ofPatterns? (engine : Pattern.Engine) (patterns : List String) : Option Cleanup :=
  (patterns.mapM engine.compile?).map Cleanup.mk

/-- Cleans a path. -/
def applyList (cleanup : Cleanup) (path : List Char) : List Char :=
  cleanup.rules.foldl (fun path rule => rule.remove path) path

/-- Cleans a path. -/
def apply (cleanup : Cleanup) (path : String) : String :=
  String.ofList (cleanup.applyList path.toList)

end Cleanup

end Retrace
