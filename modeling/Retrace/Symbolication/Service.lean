import Retrace.Cleanup
import Retrace.Frame
import Retrace.SourceMap.Resolve
import Retrace.Symbolication.Locate

/-!
# Resolving frames

A frame is resolved in four steps: its file is cleaned, the artifact is fetched, its source map is
located, and the frame's place is looked up there. An artifact without a map is its own source. A
batch of frames has one result for each, in order; a frame that fails has none and does not touch
the others.

A frame whose line in the source is refused, because it does not fit, has no answer at all. It is
the end of everything that it is resolved for: the batch that it is in has none either.
-/

namespace Retrace

/-- How frames are resolved. -/
structure Service where
  /-- The rules that clean the file of a frame. -/
  cleanup : Cleanup
  /-- How many frames may be resolved at the same time. No result depends on it. -/
  concurrency : Nat := 8
  /-- What becomes of lines that do not fit. -/
  overflow : Overflow := .refused

namespace Service

/-- The position of a frame in an artifact that is its own source. -/
def directPosition (file : String) (frame : Frame) (artifact : Artifact) : Position :=
  ⟨file, frame.line, frame.column, some artifact.text⟩

/-- The position of a frame whose cleaned file is `file` in a fetched artifact. -/
def resolveIn (service : Service) (file : String) (frame : Frame) (artifact : Artifact) :
    Fetching (Option (Except ResolveFault Position)) :=
  artifact.locateMap.bind fun located =>
    .done <|
      match located with
      | .error fault => some (.error fault)
      | .ok none => some (.ok (directPosition file frame artifact))
      | .ok (some map) => map.resolve? service.overflow frame.line frame.column

/-- Resolves a frame, or says why it cannot. -/
def tryFrame (service : Service) (frame : Frame) :
    Fetching (Option (Except ResolveFault Position)) :=
  let file := service.cleanup.apply frame.file
  (Artifact.fetch file).bind fun fetched =>
    match fetched with
    | .error fault => .done (some (.error fault))
    | .ok artifact => service.resolveIn file frame artifact

/-- Resolves the frame that a line states, or says why it cannot. -/
def tryLine (service : Service) (line : String) :
    Fetching (Option (Except ResolveFault Position)) :=
  match Frame.read? line with
  | none => .done (some (.error (.unrecognized (Text.trimmed line))))
  | some frame => service.tryFrame frame

/-- Resolves a frame. Where there is an answer, a frame that fails has no position. -/
def frame (service : Service) (frame : Frame) : Fetching (Option (Option Position)) :=
  (service.tryFrame frame).bind fun result => .done (result.map Except.toOption)

/-- Resolves a frame that may be missing. -/
def slot (service : Service) : Option Frame → Fetching (Option (Option Position))
  | none => .done (some none)
  | some frame => service.frame frame

/-- Resolves a batch of frames. -/
def frames (service : Service) (frames : List (Option Frame)) :
    Fetching (Option (List (Option Position))) :=
  Plan.collect (frames.map service.slot)

/-- Resolves the frames that lines state. -/
def lines (service : Service) (lines : List String) :
    Fetching (Option (List (Option Position))) :=
  service.frames (lines.map Frame.read?)

/-- Resolves the frames of the lines of a trace. -/
def trace (service : Service) (trace : String) : Fetching (Option (List (Option Position))) :=
  service.lines (Text.linesOf trace)

end Service

end Retrace
