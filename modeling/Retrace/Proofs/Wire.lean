import Retrace.Proofs.Json.Printing
import Retrace.Wire

/-!
# Wire forms

Frames, requests, positions and answers are read back from their written forms
(`roundTrips_wire`). What is left out of a written frame, and what is written as `null`, is read as
absent, every number of 32 bits is written in digits alone, and every character of a text is spelled.
-/

namespace Retrace

open Json (Member Shape Tree Value)

variable {α : Type}

/-- Values of a type survive being written and read. -/
structure RoundTrips (reader : Json.Reader α) (toJson : α → Value) : Prop where
  /-- A written value is read back. -/
  read_write : ∀ a, Json.read reader (Text.Utf8.encode (toJson a).print) = .ok a
  /-- What has been read from any document is read again from its written form. -/
  rewrite : ∀ document a, Json.read reader document = .ok a →
    Json.read reader (Text.Utf8.encode (toJson a).print) = .ok a

/-- Values that are read back survive. -/
theorem RoundTrips.of_read_write {reader : Json.Reader α} {toJson : α → Value}
    (h : ∀ a, Json.read reader (Text.Utf8.encode (toJson a).print) = .ok a) :
    RoundTrips reader toJson :=
  ⟨h, fun _ a _ => h a⟩

open Json.Reader (text_decodes word_decodes)

namespace Frame

/-- The members of a frame can be taken in any order. -/
theorem isRegular_shape : shape.IsRegular := by
  simp [shape]

/-- A frame is read back, with or without a name. -/
theorem read_toJson (f : Frame) : Json.read reader (Text.Utf8.encode (toJson f).print) = .ok f := by
  obtain ⟨_ | name, file, line, column⟩ := f
  all_goals
    refine Json.Shape.read_print isRegular_shape (by simp) ?_
    refine (Json.assemble?_optional text_decodes (by decide) rfl).mpr ⟨_, rfl, ?_⟩
    refine (Json.assemble?_required text_decodes).mpr ⟨_, rfl, ?_⟩
    refine (Json.assemble?_required word_decodes).mpr ⟨_, Json.word?_ofNat line, ?_⟩
    exact (Json.assemble?_required word_decodes).mpr ⟨_, Json.word?_ofNat column, rfl⟩

end Frame

namespace FrameRequest

/-- The members of a request can be taken in any order. -/
theorem isRegular_shape : shape.IsRegular := by
  simp [shape]

/-- A request is read back. -/
theorem read_toJson (r : FrameRequest) :
    Json.read reader (Text.Utf8.encode (toJson r).print) = .ok r := by
  refine Json.Shape.read_print isRegular_shape (by simp) ?_
  refine (Json.assemble?_required text_decodes).mpr ⟨_, rfl, ?_⟩
  refine (Json.assemble?_required word_decodes).mpr ⟨_, Json.word?_ofNat r.line, ?_⟩
  exact (Json.assemble?_required word_decodes).mpr ⟨_, Json.word?_ofNat r.column, rfl⟩

end FrameRequest

namespace Position

/-- The members of a position can be taken in any order. -/
theorem isRegular_shape : shape.IsRegular := by
  simp [shape]

/-- A position is read back, with or without the content of its source. -/
theorem read_toJson (p : Position) :
    Json.read reader (Text.Utf8.encode (toJson p).print) = .ok p := by
  obtain ⟨file, line, column, _ | content⟩ := p
  all_goals
    refine Json.Shape.read_print isRegular_shape (by simp) ?_
    refine (Json.assemble?_required text_decodes).mpr ⟨_, rfl, ?_⟩
    refine (Json.assemble?_required word_decodes).mpr ⟨_, Json.word?_ofNat line, ?_⟩
    refine (Json.assemble?_required word_decodes).mpr ⟨_, Json.word?_ofNat column, ?_⟩
    exact (Json.assemble?_optional text_decodes (by decide) rfl).mpr ⟨_, rfl, rfl⟩

end Position

namespace FrameAnswer

/-- The members of an answer can be taken in any order. -/
theorem isRegular_shape : shape.IsRegular := by
  simp [shape]

/-- A number that may be absent is decoded as it is written. -/
theorem given?_word (n : Option UInt32) :
    Tree.given? Tree.word? (some (Value.ofOption Value.word n).tree) = some n := by
  cases n with
  | none => rfl
  | some n => exact congrArg (Option.map some) (Json.word?_ofNat n)

/-- An answer is read back, whatever of it is absent. -/
theorem read_toJson (a : FrameAnswer) :
    Json.read reader (Text.Utf8.encode (toJson a).print) = .ok a := by
  obtain ⟨root, file, content, line, column⟩ := a
  refine Json.Shape.read_print isRegular_shape (by simp) ?_
  refine (Json.assemble?_required text_decodes).mpr ⟨_, rfl, ?_⟩
  refine (Json.assemble?_required text_decodes).mpr ⟨_, rfl, ?_⟩
  refine (Json.assemble?_optional text_decodes (by decide) rfl).mpr
    ⟨content, by cases content <;> rfl, ?_⟩
  refine (Json.assemble?_optional word_decodes (by decide) rfl).mpr ⟨line, given?_word line, ?_⟩
  exact (Json.assemble?_optional word_decodes (by decide) rfl).mpr ⟨column, given?_word column, rfl⟩

end FrameAnswer

/-- Frames, requests, positions and answers are read back as they are written, and whatever has been
read from a document, in any form, is the same when it is written and read again. -/
theorem roundTrips_wire :
    RoundTrips Frame.reader Frame.toJson ∧ RoundTrips FrameRequest.reader FrameRequest.toJson ∧
      RoundTrips Position.reader Position.toJson ∧
      RoundTrips FrameAnswer.reader FrameAnswer.toJson :=
  ⟨.of_read_write Frame.read_toJson, .of_read_write FrameRequest.read_toJson,
    .of_read_write Position.read_toJson, .of_read_write FrameAnswer.read_toJson⟩

/-- A frame stated in another order, with the name as `null` and a further member, and the same frame
stated as a list: both documents are read, and what is read is read again from its written form. -/
theorem roundTrips_wire_two_forms :
    let object : Value := .record [("column", .number 2), ("x", .list [.bool true]),
      ("methodName", .null), ("line", .number 1), ("file", .text "/a.js")]
    let list : Value := .list [.null, .text "/a.js", .number 1, .number 2]
    let frame : Frame := ⟨none, "/a.js", 1, 2⟩
    Json.read Frame.reader (Text.Utf8.encode object.print) = .ok frame ∧
      Json.read Frame.reader (Text.Utf8.encode list.print) = .ok frame ∧
      Json.read Frame.reader (Text.Utf8.encode frame.toJson.print) = .ok frame := by
  intro object list frame
  have hobject : Json.read Frame.reader (Text.Utf8.encode object.print) = .ok frame := by
    refine Json.Shape.read_print Frame.isRegular_shape (by simp) ?_
    refine (Json.assemble?_optional text_decodes (by decide) rfl).mpr ⟨_, rfl, ?_⟩
    refine (Json.assemble?_required text_decodes).mpr ⟨_, rfl, ?_⟩
    refine (Json.assemble?_required word_decodes).mpr ⟨_, Json.word?_ofNat 1, ?_⟩
    exact (Json.assemble?_required word_decodes).mpr ⟨_, Json.word?_ofNat 2, rfl⟩
  have hlist : Json.read Frame.reader (Text.Utf8.encode list.print) = .ok frame := by
    refine (Json.read_eq_ok_iff (Json.Shape.takes_list Frame.isRegular_shape _ _)
      (Json.isDocument_print list)).mpr ?_
    rfl
  exact ⟨hobject, hlist, roundTrips_wire.1.rewrite _ _ hlist⟩

end Retrace
