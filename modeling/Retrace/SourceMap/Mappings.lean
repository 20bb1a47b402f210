import Retrace.SourceMap.Fault
import Retrace.SourceMap.Table
import Retrace.Vlq

/-!
# The mappings text

The mappings of a source map as one text: lines of the generated text are separated by semicolons,
segments of a line by commas. Each number of a segment counts on from an earlier one. The column of
the generated text starts anew on each line; the numbers of an origin count on through the whole
text, over segments without an origin, and the name over segments without a name.

`read` goes from the left and stops at the first faulty segment; `write` is its inverse on mappings
whose differences fit 32 bits.
-/

namespace Retrace.Mappings

/-- The numbers that the next origin counts on from. -/
structure Totals where
  /-- The number of the source. -/
  source : UInt32
  /-- The line in the source. -/
  line : UInt32
  /-- The column in the source. -/
  column : UInt32
  /-- The number of the name. -/
  name : UInt32
  deriving Repr, DecidableEq

/-- The totals before the first segment. -/
def Totals.zero : Totals := ⟨0, 0, 0, 0⟩

/-- Counts a number on. It must stay within 32 bits. -/
def advance (field : SegmentField) (total : UInt32) (delta : Int32) :
    Except SegmentFault UInt32 :=
  let next := (total.toNat : Int) + delta.toInt
  if 0 ≤ next ∧ next < UInt32.size then .ok (UInt32.ofNat next.toNat)
  else .error (.outOfRange field)

/-- The origin of a segment from the numbers after its column, and the totals after it. -/
def readOrigin (totals : Totals) (values : List Int32) :
    Except SegmentFault (Option Origin × Totals) :=
  match values with
  | [] => .ok (none, totals)
  | [source, line, column] => do
    let source ← advance .sourceIndex totals.source source
    let line ← advance .sourceLine totals.line line
    let column ← advance .sourceColumn totals.column column
    return (some ⟨source, line, column, none⟩, ⟨source, line, column, totals.name⟩)
  | [source, line, column, name] => do
    let source ← advance .sourceIndex totals.source source
    let line ← advance .sourceLine totals.line line
    let column ← advance .sourceColumn totals.column column
    let name ← advance .nameIndex totals.name name
    return (some ⟨source, line, column, some name⟩, ⟨source, line, column, name⟩)
  | _ => .error .fieldCount

/-- The mapping of a segment's numbers on a line of the generated text, whose column so far is
`column`, and the totals after it. -/
def readValues (line column : UInt32) (totals : Totals) :
    List Int32 → Except SegmentFault (Mapping × Totals)
  | [] => .error .fieldCount
  | delta :: values => do
    let column ← advance .generatedColumn column delta
    let (origin, totals) ← readOrigin totals values
    return (⟨line, column, origin⟩, totals)

/-- The fault of a segment whose characters do not form numbers. -/
def vlqFault (segment : List Char) : Vlq.Fault → MapFault
  | .badByte byte => .vlqByte byte
  | .overflow => .vlqOverflow
  | .unterminated => .segment (String.ofList segment) .unterminated

/-- The mapping of a segment and the totals after it. -/
def readSegment (line column : UInt32) (totals : Totals) (segment : List Char) :
    Except MapFault (Mapping × Totals) := do
  let values ← (Vlq.read segment).mapError (vlqFault segment)
  (readValues line column totals values).mapError (.segment (String.ofList segment))

/-- The mappings of the segments of a line, and the totals after them. -/
def readSegments (line column : UInt32) (totals : Totals) :
    List (List Char) → Except MapFault (List Mapping × Totals)
  | [] => .ok ([], totals)
  | segment :: segments => do
    let (mapping, totals) ← readSegment line column totals segment
    let (mappings, totals) ← readSegments line mapping.generatedColumn totals segments
    return (mapping :: mappings, totals)

/-- The segments of a line. Empty ones do not count. -/
def segmentsOf (line : List Char) : List (List Char) :=
  (line.splitOn ',').filter (!·.isEmpty)

/-- The mappings of the lines from the line `index` on. -/
def readLines (index : Nat) (totals : Totals) : List (List Char) → Except MapFault (List Mapping)
  | [] => .ok []
  | line :: lines => do
    -- The column starts anew, the other totals go on.
    let (mappings, totals) ← readSegments (UInt32.ofNat index) 0 totals (segmentsOf line)
    return mappings ++ (← readLines (index + 1) totals lines)

/-- The mappings of a text in the order of their segments. -/
def readList (text : List Char) : Except MapFault (List Mapping) :=
  readLines 0 .zero (text.splitOn ';')

/-- The table of the mappings of a text. -/
def read (text : String) : Except MapFault MappingTable :=
  (readList text.toList).map MappingTable.ofList

/-! ### Steps of the reader -/

section

variable {line column : UInt32} {totals : Totals}

/-- A segment whose characters form numbers is read from these. -/
theorem readSegment_of_read {segment : List Char} {values : List Int32}
    (h : Vlq.read segment = .ok values) :
    readSegment line column totals segment =
      (readValues line column totals values).mapError (.segment (String.ofList segment)) := by
  unfold readSegment
  rw [h]
  rfl

/-- With the column counted on, the origin is read from the other numbers. -/
theorem readValues_cons {delta : Int32} {values : List Int32} {next : UInt32}
    (h : advance .generatedColumn column delta = .ok next) :
    readValues line column totals (delta :: values) =
      (readOrigin totals values).map fun read => (⟨line, next, read.1⟩, read.2) := by
  rw [readValues, h]
  show (readOrigin _ _ >>= _) = _
  cases readOrigin totals values <;> rfl

/-- Behind a segment that is read the others are read with its column and its totals. -/
theorem readSegments_cons {segment : List Char} {segments : List (List Char)} {m : Mapping}
    {totals' : Totals} (h : readSegment line column totals segment = .ok (m, totals')) :
    readSegments line column totals (segment :: segments) =
      (readSegments line m.generatedColumn totals' segments).map
        fun read => (m :: read.1, read.2) := by
  rw [readSegments, h]
  show (readSegments _ _ _ _ >>= _) = _
  cases readSegments line m.generatedColumn totals' segments <;> rfl

/-- Behind a line that is read the others are read with its totals. -/
theorem readLines_cons {index : Nat} {text : List Char} {lines : List (List Char)}
    {mappings : List Mapping} {totals' : Totals}
    (h : readSegments (UInt32.ofNat index) 0 totals (segmentsOf text) = .ok (mappings, totals')) :
    readLines index totals (text :: lines) =
      (readLines (index + 1) totals' lines).map (mappings ++ ·) := by
  rw [readLines, h]
  show (readLines _ _ _ >>= _) = _
  cases readLines (index + 1) totals' lines <;> rfl

end

/-! ### Writing -/

/-- The difference that takes a number to the next. -/
def difference (total next : UInt32) : Int32 :=
  Int32.ofInt ((next.toNat : Int) - total.toNat)

/-- The numbers of an origin, and the totals after it. -/
def writeOrigin (totals : Totals) : Option Origin → List Int32 × Totals
  | none => ([], totals)
  | some o =>
    let values := [difference totals.source o.sourceIndex, difference totals.line o.line,
      difference totals.column o.column]
    match o.nameIndex with
    | none => (values, ⟨o.sourceIndex, o.line, o.column, totals.name⟩)
    | some name =>
      (values ++ [difference totals.name name], ⟨o.sourceIndex, o.line, o.column, name⟩)

/-- The segments of the mappings of a line, and the totals after them. -/
def writeSegments (column : UInt32) (totals : Totals) : List Mapping → List (List Char) × Totals
  | [] => ([], totals)
  | mapping :: mappings =>
    let (values, totals) := writeOrigin totals mapping.origin
    let segment := Vlq.write (difference column mapping.generatedColumn :: values)
    let (segments, totals) := writeSegments mapping.generatedColumn totals mappings
    (segment :: segments, totals)

/-- The lines of a text, each with the mappings of a line of the generated text. -/
def writeLines (totals : Totals) : List (List Mapping) → List (List Char)
  | [] => []
  | mappings :: lines =>
    let (segments, totals) := writeSegments 0 totals mappings
    [','].intercalate segments :: writeLines totals lines

/-- The text of the mappings of each line of the generated text. -/
def write (lines : List (List Mapping)) : List Char :=
  [';'].intercalate (writeLines .zero lines)

end Retrace.Mappings
