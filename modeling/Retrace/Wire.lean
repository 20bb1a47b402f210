import Retrace.Frame
import Retrace.FrameAnswer
import Retrace.Json.Record
import Retrace.Json.Value

/-!
# Wire forms

How frames, requests, positions and answers are written as JSON documents and read back. A frame
without a name of its method leaves the member out; every other absent part is written as `null`.
-/

namespace Retrace

open Json (Member Shape Value)

/-- A number of 32 bits. -/
def Json.Value.word (n : UInt32) : Value := .number n.toNat

namespace Frame

/-- The frame that says nothing. -/
def blank : Frame := ⟨none, "", 0, 0⟩

/-- How a frame is written as a record. -/
def shape : Shape Frame where
  members := [
    .of "methodName" .optional (.optional .text) fun v f => { f with methodName := v },
    .of "file" .required .text fun v f => { f with file := v },
    .of "line" .required .word fun v f => { f with line := v },
    .of "column" .required .word fun v f => { f with column := v }]

/-- Reads a frame. -/
def reader : Json.Reader Frame := shape.reader blank

/-- The written form of a frame. -/
def toJson (f : Frame) : Value :=
  let name : List (String × Value) :=
    match f.methodName with
    | some name => [("methodName", .text name)]
    | none => []
  .record (name ++ [("file", .text f.file), ("line", .word f.line), ("column", .word f.column)])

end Frame

namespace FrameRequest

/-- The request that says nothing. -/
def blank : FrameRequest := ⟨"", 0, 0⟩

/-- How a request is written as a record. -/
def shape : Shape FrameRequest where
  members := [
    .of "bundledFile" .required .text fun v r => { r with bundledFile := v },
    .of "line" .required .word fun v r => { r with line := v },
    .of "column" .required .word fun v r => { r with column := v }]

/-- Reads a request. -/
def reader : Json.Reader FrameRequest := shape.reader blank

/-- The written form of a request. -/
def toJson (r : FrameRequest) : Value :=
  .record [("bundledFile", .text r.bundledFile), ("line", .word r.line),
    ("column", .word r.column)]

end FrameRequest

namespace Position

/-- The position that says nothing. -/
def blank : Position := ⟨"", 0, 0, none⟩

/-- How a position is written as a record. -/
def shape : Shape Position where
  members := [
    .of "file" .required .text fun v p => { p with file := v },
    .of "line" .required .word fun v p => { p with line := v },
    .of "column" .required .word fun v p => { p with column := v },
    .of "sourceContent" .nullable (.optional .text) fun v p => { p with sourceContent := v }]

/-- Reads a position. -/
def reader : Json.Reader Position := shape.reader blank

/-- The written form of a position. -/
def toJson (p : Position) : Value :=
  .record [("file", .text p.file), ("line", .word p.line), ("column", .word p.column),
    ("sourceContent", .ofOption .text p.sourceContent)]

end Position

namespace FrameAnswer

/-- The answer that says nothing. -/
def blank : FrameAnswer := ⟨"", "", none, none, none⟩

/-- How an answer is written as a record. -/
def shape : Shape FrameAnswer where
  members := [
    .of "root" .required .text fun v a => { a with root := v },
    .of "file" .required .text fun v a => { a with file := v },
    .of "sourceContent" .nullable (.optional .text) fun v a => { a with sourceContent := v },
    .of "line" .nullable (.optional .word) fun v a => { a with line := v },
    .of "column" .nullable (.optional .word) fun v a => { a with column := v }]

/-- Reads an answer. -/
def reader : Json.Reader FrameAnswer := shape.reader blank

/-- The written form of an answer. -/
def toJson (a : FrameAnswer) : Value :=
  .record [("root", .text a.root), ("file", .text a.file),
    ("sourceContent", .ofOption .text a.sourceContent), ("line", .ofOption .word a.line),
    ("column", .ofOption .word a.column)]

end FrameAnswer

end Retrace
