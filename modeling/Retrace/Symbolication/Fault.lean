import Retrace.Artifact.Fault
import Retrace.SourceMap.Fault

/-!
# Faults of resolving a frame
-/

namespace Retrace

/-- Why a frame has no position. -/
inductive ResolveFault where
  /-- The line of the trace states no frame. -/
  | unrecognized (line : String)
  /-- The text at a location cannot be had. -/
  | unavailable (location : String) (fault : FetchFault)
  /-- The source map cannot be used. -/
  | malformedMap (fault : MapFault)
  /-- The source map says nothing of the frame. -/
  | unmapped (line column : UInt32)
  deriving Repr, DecidableEq

/-- The name of the kind of a fault. -/
def ResolveFault.kind : ResolveFault → String
  | .unrecognized _ => "unparseable_frame"
  | .unavailable _ _ => "artifact_unavailable"
  | .malformedMap _ => "malformed_map"
  | .unmapped _ _ => "mapping_not_found"

/-- What a message says of a fault. -/
def ResolveFault.message : ResolveFault → String
  | .unrecognized line =>
    let shown := Text.quoted line
    s!"unrecognized stack frame: {shown}"
  | .unavailable location fault => s!"artifact unavailable at {location}: {fault.message}"
  | .malformedMap fault => s!"malformed source map: {fault.message}"
  | .unmapped line column => s!"no mapping found for line {line.toNat}, column {column.toNat}"

end Retrace
