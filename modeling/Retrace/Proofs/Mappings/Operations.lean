import Mathlib.Algebra.Ring.Nat
import Retrace.Proofs.Mappings.Totals

/-!
# The operations of reading

Reading a mappings text takes operations that can fail. Bits are shifted and put together in words,
numbers are taken from their places in a list, and totals are counted on in words. Here the reader
has these operations taken apart (`Run.read`): each is noted with what it works on when it is its
turn, and springs a trap if it fails.

A word holds its number exactly as long as that fits (`Run.signedWord_of_lt`,
`Run.unsignedWord_of_lt`, `Run.shiftWord_of_lt`), and counters that hold numbers of 32 bits are in
their range (`Counters.fits_ofTotals`).
-/

namespace Retrace.Mappings

/-! ### Operations -/

/-- The numbers that are counted on, as words of 64 bits with a sign. -/
structure Counters where
  /-- The column of the generated text. -/
  generatedColumn : Int
  /-- The number of the source. -/
  sourceIndex : Int
  /-- The line in the source. -/
  sourceLine : Int
  /-- The column in the source. -/
  sourceColumn : Int
  /-- The number of the name. -/
  nameIndex : Int
  deriving Repr, DecidableEq

/-- The total of a field. -/
def Counters.get (counters : Counters) : SegmentField → Int
  | .generatedColumn => counters.generatedColumn
  | .sourceIndex => counters.sourceIndex
  | .sourceLine => counters.sourceLine
  | .sourceColumn => counters.sourceColumn
  | .nameIndex => counters.nameIndex

/-- The totals with another one for a field. -/
def Counters.set (counters : Counters) (field : SegmentField) (total : Int) : Counters :=
  match field with
  | .generatedColumn => { counters with generatedColumn := total }
  | .sourceIndex => { counters with sourceIndex := total }
  | .sourceLine => { counters with sourceLine := total }
  | .sourceColumn => { counters with sourceColumn := total }
  | .nameIndex => { counters with nameIndex := total }

/-- The counters that hold a column and totals of 32 bits. -/
def Counters.ofTotals (column : UInt32) (totals : Totals) : Counters :=
  ⟨column.toNat, totals.source.toNat, totals.line.toNat, totals.column.toNat, totals.name.toNat⟩

/-- Numbers of 32 bits are in their range. -/
theorem Counters.fits_ofTotals (column : UInt32) (totals : Totals) (field : SegmentField) :
    Fits ((ofTotals column totals).get field) := by
  cases field <;> exact fits_toNat _

/-- An operation of the reader, with what it works on. -/
inductive Operation where
  /-- The lower bits of a digit are shifted and added to the bits of its group so far. -/
  | put (bits : Int) (digit shift : Nat)
  /-- A magnitude is negated. -/
  | negate (magnitude : Int)
  /-- A number of a segment is taken from its place. -/
  | take (values : List Int32) (place : Nat)
  /-- A number is added to the total of a field. -/
  | count (counters : Counters) (field : SegmentField) (delta : Int32)
  deriving Repr, DecidableEq

/-- An operation has what it needs. The bits of a group come to fewer than 35 with each digit, the
list is long enough, and no total is out of its range. -/
def Operation.IsSound : Operation → Prop
  | .put bits digit shift =>
    shift ≤ 30 ∧ 0 ≤ bits ∧ bits + (digit % 32 * 2 ^ shift : Nat) < 2 ^ 35
  | .negate magnitude => 0 ≤ magnitude ∧ magnitude < 2 ^ 34
  | .take values place => place < values.length
  | .count counters field delta =>
    (∀ field, Fits (counters.get field)) ∧
      -2 ^ 63 ≤ counters.get field + delta.toInt ∧ counters.get field + delta.toInt < 2 ^ 63

/-- An operation takes a total out of its range. -/
def Operation.LeavesRange : Operation → Prop
  | .count counters field delta => ¬ Fits (counters.get field + delta.toInt)
  | _ => False

/-- How an operation fails. -/
inductive Trap where
  /-- A word is shifted by as many bits as it has, or more. -/
  | shift
  /-- A number does not fit its word. -/
  | overflow
  /-- A list has no such place. -/
  | range
  deriving Repr, DecidableEq

/-- What ends a run before its time. -/
inductive Stop where
  /-- The text has a fault. -/
  | fault (fault : MapFault)
  /-- An operation fails. -/
  | trap (trap : Trap)
  deriving Repr, DecidableEq

/-- The operations of a computation in their order, and what it comes to. -/
structure Run (α : Type) where
  /-- The operations. -/
  operations : List Operation
  /-- The result, or what ends the run. -/
  outcome : Except Stop α

namespace Run

/-- Goes on with what follows the result. -/
protected def bind {α β : Type} (run : Run α) (next : α → Run β) : Run β :=
  match run.outcome with
  | .ok result => ⟨run.operations ++ (next result).operations, (next result).outcome⟩
  | .error stop => ⟨run.operations, .error stop⟩

instance : Monad Run where
  pure result := ⟨[], .ok result⟩
  bind := Run.bind

/-- A run that goes on with a run that goes on notes the operations of all three in their order. -/
protected theorem bind_assoc {α β γ : Type} (run : Run α) (next : α → Run β) (last : β → Run γ) :
    run >>= next >>= last = run >>= fun a => next a >>= last := by
  obtain ⟨operations, outcome⟩ := run
  cases outcome with
  | error stop => rfl
  | ok a =>
    show Run.bind (Run.bind ⟨operations, .ok a⟩ next) last =
      Run.bind ⟨operations, .ok a⟩ fun a => Run.bind (next a) last
    simp only [Run.bind]
    cases (next a).outcome with
    | error stop => rfl
    | ok b => simp only [List.append_assoc]

/-- A run that goes on with nothing is what it was. -/
protected theorem bind_pure {α : Type} (run : Run α) : run >>= pure = run := by
  obtain ⟨operations, outcome⟩ := run
  cases outcome with
  | error stop => rfl
  | ok a => exact congrArg (Run.mk · _) (List.append_nil operations)

instance : LawfulMonad Run :=
  .mk' Run Run.bind_pure (fun _ _ => rfl) Run.bind_assoc

/-- Notes an operation. -/
def note (operation : Operation) : Run Unit := ⟨[operation], .ok ()⟩

/-- Ends with a fault of the text. -/
def fault {α : Type} (fault : MapFault) : Run α := ⟨[], .error (.fault fault)⟩

/-- Ends with the failure of an operation. -/
def trap {α : Type} (trap : Trap) : Run α := ⟨[], .error (.trap trap)⟩

/-- A number in a word of 64 bits with a sign. -/
def signedWord (n : Int) : Run Int :=
  if -2 ^ 63 ≤ n ∧ n < 2 ^ 63 then pure n else .trap .overflow

/-- A number in a word of 32 bits without a sign. -/
def unsignedWord (n : Nat) : Run Nat :=
  if n < 2 ^ 32 then pure n else .trap .overflow

/-- Shifts a word of 64 bits, of which those are lost that are shifted out of it. -/
def shiftWord (n : Int) (shift : Nat) : Run Int :=
  if shift < 64 then pure (Int.bmod (n * 2 ^ shift) (2 ^ 64)) else .trap .shift

/-- A number that fits a word of 64 bits is exact. -/
theorem signedWord_of_lt {n : Int} (hlow : -2 ^ 63 ≤ n) (hhigh : n < 2 ^ 63) :
    signedWord n = pure n :=
  if_pos ⟨hlow, hhigh⟩

/-- A number that fits a word of 32 bits is exact. -/
theorem unsignedWord_of_lt {n : Nat} (h : n < 2 ^ 32) : unsignedWord n = pure n :=
  if_pos h

/-- A shift by which nothing is lost is a product. -/
theorem shiftWord_of_lt {n shift : Nat} (hshift : shift < 64) (h : n * 2 ^ shift < 2 ^ 63) :
    shiftWord n shift = pure ((n * 2 ^ shift : Nat) : Int) := by
  have hproduct : (n : Int) * 2 ^ shift = (n * 2 ^ shift : Nat) := by
    push_cast
    rfl
  unfold shiftWord
  rw [if_pos hshift, hproduct, Int.bmod_eq_of_le (by omega) (by omega)]

/-- The bits of a group with another digit, and the shift of the digit behind it. -/
def put (bits : Int) (digit shift : Nat) : Run (Int × Nat) := do
  .note (.put bits digit shift)
  let shifted ← shiftWord (digit % 32 : Nat) shift
  let bits ← signedWord (bits + shifted)
  let shift ← unsignedWord (shift + 5)
  return (bits, shift)

/-- The number that the bits of a group stand for. -/
def number (bits : Int) : Run Int :=
  if bits % 2 ≠ 0 then do
    .note (.negate (bits / 2))
    signedWord (-(bits / 2))
  else return bits / 2

/-- The number of a segment at a place. -/
def take (values : List Int32) (place : Nat) : Run Int32 := do
  .note (.take values place)
  match values[place]? with
  | some value => return value
  | none => .trap .range

/-- Counts the total of a field on. It must stay within 32 bits. -/
def count (segment : List Char) (counters : Counters) (field : SegmentField) (delta : Int32) :
    Run (UInt32 × Counters) := do
  .note (.count counters field delta)
  let total ← signedWord (counters.get field + delta.toInt)
  -- The total is kept before it is judged.
  let counters := counters.set field total
  if Fits total then return (UInt32.ofNat total.toNat, counters)
  else .fault (.segment (String.ofList segment) (.outOfRange field))

/-! ### The reader by operations -/

/-- Reads the bytes of a segment behind the numbers that have been read and behind digits of a group
with these bits. -/
def readNumbers (segment : List Char) (values : List Int32) (bits : Int) (shift : Nat) :
    List UInt8 → Run (List Int32)
  | [] => if shift ≠ 0 then .fault (vlqFault segment .unterminated) else return values
  | byte :: bytes =>
    match Base64.value? byte.toNat with
    | none => .fault (vlqFault segment (.badByte byte))
    | some digit => do
      let (bits, shift) ← put bits digit shift
      if 32 ≤ digit then
        if 35 ≤ shift then .fault (vlqFault segment .overflow)
        else readNumbers segment values bits shift bytes
      else do
        let number ← number bits
        if Int32.minValue.toInt ≤ number ∧ number ≤ Int32.maxValue.toInt then
          readNumbers segment (values ++ [Int32.ofInt number]) 0 0 bytes
        else .fault (vlqFault segment .overflow)

/-- Reads the origin of a segment with these numbers. -/
def readOrigin (segment : List Char) (counters : Counters) (values : List Int32) :
    Run (Option Origin × Counters) :=
  if values.length = 1 then return (none, counters)
  else if values.length = 4 ∨ values.length = 5 then do
    let (source, counters) ← count segment counters .sourceIndex (← take values 1)
    let (line, counters) ← count segment counters .sourceLine (← take values 2)
    let (column, counters) ← count segment counters .sourceColumn (← take values 3)
    match values[4]? with
    | none => return (some ⟨source, line, column, none⟩, counters)
    | some delta => do
      let (name, counters) ← count segment counters .nameIndex delta
      return (some ⟨source, line, column, some name⟩, counters)
  else .fault (.segment (String.ofList segment) .fieldCount)

/-- Reads a segment on a line of the generated text. -/
def readSegment (line : UInt32) (counters : Counters) (segment : List Char) :
    Run (Mapping × Counters) := do
  let values ← readNumbers segment [] 0 0 (Text.Utf8.encode segment)
  let (column, counters) ← count segment counters .generatedColumn (← take values 0)
  let (origin, counters) ← readOrigin segment counters values
  return (⟨line, column, origin⟩, counters)

/-- Reads the segments of a line. -/
def readSegments (line : UInt32) (counters : Counters) :
    List (List Char) → Run (List Mapping × Counters)
  | [] => return ([], counters)
  | segment :: segments => do
    let (mapping, counters) ← readSegment line counters segment
    let (mappings, counters) ← readSegments line counters segments
    return (mapping :: mappings, counters)

/-- Reads the lines from the line `index` on, each from column zero. -/
def readLines (index : Nat) (counters : Counters) : List (List Char) → Run (List Mapping)
  | [] => return []
  | line :: lines => do
    let (mappings, counters) ←
      readSegments (UInt32.ofNat index) (counters.set .generatedColumn 0) (segmentsOf line)
    return mappings ++ (← readLines (index + 1) counters lines)

/-- Reads the mappings of a text. -/
def read (text : String) : Run MappingTable :=
  return .ofList (← readLines 0 ⟨0, 0, 0, 0, 0⟩ (text.toList.splitOn ';'))

end Run

end Retrace.Mappings
