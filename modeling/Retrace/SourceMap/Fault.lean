import Retrace.Base64
import Retrace.Json.Token
import Retrace.Text.Quoted

/-!
# Faults of source maps

Why a source map cannot be used, from the reference that should lead to it to the mapping that a
lookup meets, and what messages say of it.
-/

namespace Retrace

/-- A number of a segment, each counted on from the segment before. -/
inductive SegmentField where
  /-- The column of the generated text. -/
  | generatedColumn
  /-- The number of the source. -/
  | sourceIndex
  /-- The line in the source. -/
  | sourceLine
  /-- The column in the source. -/
  | sourceColumn
  /-- The number of a name. -/
  | nameIndex
  deriving Repr, DecidableEq

/-- What messages call a number of a segment. -/
def SegmentField.label : SegmentField → String
  | .generatedColumn => "generated column"
  | .sourceIndex => "source index"
  | .sourceLine => "original line"
  | .sourceColumn => "original column"
  | .nameIndex => "name index"

/-- What is wrong with a segment whose characters are all digits. -/
inductive SegmentFault where
  /-- It ends inside a number. -/
  | unterminated
  /-- It counts a number below zero or beyond 32 bits. -/
  | outOfRange (field : SegmentField)
  /-- It has neither one nor four nor five numbers. -/
  | fieldCount
  deriving Repr, DecidableEq

/-- The reason that a message gives. A number out of range is called negative on either side. -/
def SegmentFault.reason : SegmentFault → String
  | .unterminated => "unterminated VLQ value"
  | .outOfRange field => s!"negative {field.label}"
  | .fieldCount => "expected 1, 4 or 5 fields"

/-- Why a source map cannot be used. -/
inductive MapFault where
  /-- Its document cannot be read. -/
  | json (fault : Json.Fault)
  /-- Its inline payload is not base64. -/
  | base64 (fault : Base64.Fault)
  /-- The reference is a data URL of another kind. -/
  | dataUrl (reference : String)
  /-- Its version is not three. -/
  | version (found : UInt32)
  /-- Its mappings have a byte that is no digit. -/
  | vlqByte (byte : UInt8)
  /-- Its mappings have a number beyond 32 bits. -/
  | vlqOverflow
  /-- Its mappings have a faulty segment. -/
  | segment (text : String) (fault : SegmentFault)
  /-- A mapping names a source that is not listed. -/
  | sourceIndex (index : UInt32)
  deriving Repr, DecidableEq

/-- How many characters of a data URL a message shows. -/
def MapFault.shownReference : Nat := 48

/-- The fault of a data URL that holds no source map. -/
def MapFault.ofDataUrl (reference : List Char) : MapFault :=
  .dataUrl (String.ofList (reference.take shownReference))

/-- What a message says of a fault. -/
def MapFault.message : MapFault → String
  | .json fault => s!"invalid source map JSON: {fault.category}"
  | .base64 fault => s!"invalid inline source map encoding: {fault.message}"
  | .dataUrl reference => s!"unsupported source map data URL: {reference}"
  | .version found => s!"invalid source map version: expected 3, got {found.toNat}"
  | .vlqByte byte =>
    let shown := Text.quotedChar (Char.ofNat byte.toNat)
    s!"invalid VLQ character: {shown}"
  | .vlqOverflow => "VLQ value overflows 32 bits"
  | .segment text fault =>
    let shown := Text.quoted text
    s!"invalid mapping segment {shown}: {fault.reason}"
  | .sourceIndex index => s!"invalid source index: {index.toNat}"

end Retrace
