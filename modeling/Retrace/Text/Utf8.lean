/-!
# UTF-8

Texts as bytes. Files, bodies and payloads arrive as bytes and are read in two ways: strictly,
where bytes that are not UTF-8 have no text, and leniently, where every longest piece that starts a
character without finishing it, and every byte that starts none, becomes a replacement character.
-/

namespace Retrace.Text.Utf8

/-- The bytes of a text. -/
def encode (text : List Char) : List UInt8 :=
  text.flatMap String.utf8EncodeChar

/-- A text that is not empty has bytes. -/
theorem encode_ne_nil {text : List Char} (h : text ≠ []) : encode text ≠ [] := by
  obtain ⟨c, cs, rfl⟩ := List.exists_cons_of_ne_nil h
  exact List.append_ne_nil_of_left_ne_nil String.utf8EncodeChar_ne_nil _

/-- The text of bytes that are UTF-8. -/
def decode? (bytes : List UInt8) : Option String :=
  String.fromUTF8? bytes.toByteArray

/-- The first byte of a character. -/
def firstByte (c : Char) : UInt8 :=
  (String.utf8EncodeChar c).headD 0

/-- The replacement character. -/
def replacement : Char := '\ufffd'

/-- A character of which some bytes have been read: the next byte lies from `lo` to `hi`, `left`
bytes follow it, and `code` is what the bytes so far contribute. -/
structure Pending where
  /-- The least next byte. -/
  lo : Nat
  /-- The greatest next byte. -/
  hi : Nat
  /-- How many bytes follow the next one. -/
  left : Nat
  /-- The bits read so far. -/
  code : Nat

/-- What a byte that starts a character stands for. -/
inductive Start where
  /-- A character of one byte, or the replacement of a byte that starts no character. -/
  | char (c : Char)
  /-- The first byte of several. -/
  | pending (p : Pending)

/-- Reads the first byte of a character. The ranges exclude overlong forms, surrogates and codes
beyond the last character. -/
def start (byte : UInt8) : Start :=
  let n := byte.toNat
  if n < 0x80 then .char (Char.ofNat n)
  else if n < 0xC2 then .char replacement
  else if n < 0xE0 then .pending ⟨0x80, 0xBF, 0, n - 0xC0⟩
  else if n = 0xE0 then .pending ⟨0xA0, 0xBF, 1, 0⟩
  else if n = 0xED then .pending ⟨0x80, 0x9F, 1, 0xD⟩
  else if n < 0xF0 then .pending ⟨0x80, 0xBF, 1, n - 0xE0⟩
  else if n = 0xF0 then .pending ⟨0x90, 0xBF, 2, 0⟩
  else if n < 0xF4 then .pending ⟨0x80, 0xBF, 2, n - 0xF0⟩
  else if n = 0xF4 then .pending ⟨0x80, 0x8F, 2, 4⟩
  else .char replacement

/-- Reads bytes leniently when the character `pending` has been begun. -/
def lenientFrom (pending : Option Pending) : List UInt8 → List Char
  | [] => if pending.isSome then [replacement] else []
  | byte :: bytes =>
    let fresh (_ : Unit) : List Char :=
      match start byte with
      | .char c => c :: lenientFrom none bytes
      | .pending p => lenientFrom (some p) bytes
    match pending with
    | none => fresh ()
    | some p =>
      let n := byte.toNat
      if p.lo ≤ n ∧ n ≤ p.hi then
        let code := p.code * 64 + (n - 0x80)
        match p.left with
        | 0 => Char.ofNat code :: lenientFrom none bytes
        | left + 1 => lenientFrom (some ⟨0x80, 0xBF, left, code⟩) bytes
      else replacement :: fresh ()

/-- The text of any bytes, with a replacement character for each piece that is not UTF-8. -/
def lenient (bytes : List UInt8) : List Char :=
  lenientFrom none bytes

end Retrace.Text.Utf8
