import Retrace.Base64
import Retrace.Proofs.Text

/-!
# Base64

Whatever bytes are written, the payload is read back to them (`decode_payload`). Three bytes are the
bits of four digits (`bytesOf_digits`), and a group is read digit by digit, the last one with its
padding. No digit is blank, so trimming leaves a payload as it is.
-/

namespace Retrace.Base64

/-- The byte of the digit of a value. -/
def digit (value : Nat) : UInt8 := UInt8.ofNat (code value)

/-- A digit is a byte of ASCII that has its value and is neither padding nor blank. -/
theorem digit_spec {value : Nat} (h : value < 64) :
    String.utf8EncodeChar (Char.ofNat (code value)) = [digit value] ∧
      value? (digit value).toNat = some value ∧ digit value ≠ padding ∧
        Unicode.isBlank (Char.ofNat (code value)) = false := by
  have hall : ∀ v : Fin 64, String.utf8EncodeChar (Char.ofNat (code v)) = [digit v] ∧
      value? (digit v).toNat = some v.val ∧ digit v ≠ padding ∧
        Unicode.isBlank (Char.ofNat (code v)) = false := by decide
  exact hall ⟨value, h⟩

/-- A digit is read. -/
theorem symbol_digit {value : Nat} (h : value < 64) (offset : Nat) :
    symbol (digit value) offset = .ok value := by
  unfold symbol
  rw [(digit_spec h).2.1]

/-- Digits are written as their bytes. -/
theorem encode_digits {values : List Nat} (h : ∀ v ∈ values, v < 64) :
    Text.Utf8.encode (encode.digits values) = values.map digit := by
  induction values with
  | nil => rfl
  | cons v values ih =>
    have htail := ih fun w hw => h w (List.mem_cons_of_mem _ hw)
    have hhead := (digit_spec (h v List.mem_cons_self)).1
    unfold Text.Utf8.encode encode.digits at htail ⊢
    rw [List.map_cons, List.flatMap_cons, hhead, htail]
    rfl

/-- Three bytes are the bits of four digits. -/
theorem bytesOf_digits (a b c : UInt8) :
    bytesOf (a.toNat / 4) (a.toNat % 4 * 16 + b.toNat / 16) (b.toNat % 16 * 4 + c.toNat / 64)
      (c.toNat % 64) = [a, b, c] := by
  have ha := a.toNat_lt
  have hb := b.toNat_lt
  have hc := c.toNat_lt
  unfold bytesOf
  rw [show a.toNat / 4 * 4 + (a.toNat % 4 * 16 + b.toNat / 16) / 16 = a.toNat by omega,
    show (a.toNat % 4 * 16 + b.toNat / 16) % 16 * 16 + (b.toNat % 16 * 4 + c.toNat / 64) / 4 =
      b.toNat by omega,
    show (b.toNat % 16 * 4 + c.toNat / 64) % 4 * 64 + c.toNat % 64 = c.toNat by omega,
    UInt8.ofNat_toNat, UInt8.ofNat_toNat, UInt8.ofNat_toNat]

/-! ### Groups -/

variable {a b c d value offset first : Nat} {digits : List Nat} {bytes rest : List UInt8}

/-- A digit of the last group is read. -/
theorem lastDigits_digit (h : value < 64) :
    lastDigits offset digits none (digit value :: bytes) =
      lastDigits offset (digits ++ [value]) none bytes := by
  rw [lastDigits, if_neg (digit_spec h).2.2.1, symbol_digit h]
  rfl

/-- Padding begins behind two digits of the last group. -/
theorem lastDigits_padding (h : 2 ≤ digits.length) :
    lastDigits offset digits none (padding :: bytes) =
      lastDigits offset digits (some (offset + digits.length)) bytes := by
  rw [lastDigits, if_pos rfl, if_neg (by omega)]

/-- Padding goes on. -/
theorem lastDigits_padded :
    lastDigits offset digits (some first) (padding :: bytes) =
      lastDigits offset digits (some first) bytes := by
  rw [lastDigits, if_pos rfl]

/-- A last group of four digits is read. -/
theorem decodeLast_four (ha : a < 64) (hb : b < 64) (hc : c < 64) (hd : d < 64) :
    decodeLast offset [digit a, digit b, digit c, digit d] = .ok (bytesOf a b c d) := by
  unfold decodeLast
  rw [lastDigits_digit ha, lastDigits_digit hb, lastDigits_digit hc, lastDigits_digit hd]
  rfl

/-- A last group of three digits is read, if the bits that no byte needs are zero. -/
theorem decodeLast_three (ha : a < 64) (hb : b < 64) (hc : c < 64) (hzero : c % 4 = 0) :
    decodeLast offset [digit a, digit b, digit c, padding] = .ok ((bytesOf a b c 0).take 2) := by
  unfold decodeLast
  rw [lastDigits_digit ha, lastDigits_digit hb, lastDigits_digit hc, lastDigits_padding (by simp)]
  show (if c % 4 ≠ 0 then _ else _) = _
  rw [if_neg (by simpa using hzero)]
  rfl

/-- A last group of two digits is read, if the bits that no byte needs are zero. -/
theorem decodeLast_two (ha : a < 64) (hb : b < 64) (hzero : b % 16 = 0) :
    decodeLast offset [digit a, digit b, padding, padding] = .ok ((bytesOf a b 0 0).take 1) := by
  unfold decodeLast
  rw [lastDigits_digit ha, lastDigits_digit hb, lastDigits_padding (by simp), lastDigits_padded]
  show (if b % 16 ≠ 0 then _ else _) = _
  rw [if_neg (by simpa using hzero)]
  rfl

/-- A group that another one follows is read. -/
theorem decodeFrom_four (ha : a < 64) (hb : b < 64) (hc : c < 64) (hd : d < 64)
    (hrest : rest ≠ []) :
    decodeFrom offset (digit a :: digit b :: digit c :: digit d :: rest) =
      (decodeFrom (offset + 4) rest).map (bytesOf a b c d ++ ·) := by
  obtain ⟨next, rest, rfl⟩ := List.exists_cons_of_ne_nil hrest
  rw [decodeFrom, symbol_digit ha, symbol_digit hb, symbol_digit hc, symbol_digit hd]
  cases decodeFrom (offset + 4) (next :: rest) <;> rfl

/-! ### Payloads -/

/-- The bytes of the written form. -/
def payload (bytes : List UInt8) : List UInt8 := Text.Utf8.encode (encode bytes)

/-- Digits are written in front of what follows them. -/
theorem encode_digits_append {values : List Nat} (h : ∀ v ∈ values, v < 64) (text : List Char) :
    Text.Utf8.encode (encode.digits values ++ text) =
      values.map digit ++ Text.Utf8.encode text := by
  rw [← encode_digits h]
  exact List.flatMap_append

/-- One byte is written as two digits and padding. -/
theorem payload_one (x : UInt8) :
    payload [x] = [digit (x.toNat / 4), digit (x.toNat % 4 * 16), padding, padding] := by
  have hx := x.toNat_lt
  unfold payload
  rw [encode, encode_digits_append (by simp; omega)]
  rfl

/-- Two bytes are written as three digits and padding. -/
theorem payload_two (x y : UInt8) :
    payload [x, y] = [digit (x.toNat / 4), digit (x.toNat % 4 * 16 + y.toNat / 16),
      digit (y.toNat % 16 * 4), padding] := by
  have hx := x.toNat_lt
  have hy := y.toNat_lt
  unfold payload
  rw [encode, encode_digits_append (by simp; omega)]
  rfl

/-- Three bytes are written as four digits. -/
theorem payload_three (x y z : UInt8) (rest : List UInt8) :
    payload (x :: y :: z :: rest) =
      digit (x.toNat / 4) :: digit (x.toNat % 4 * 16 + y.toNat / 16) ::
        digit (y.toNat % 16 * 4 + z.toNat / 64) :: digit (z.toNat % 64) :: payload rest := by
  have hx := x.toNat_lt
  have hy := y.toNat_lt
  have hz := z.toNat_lt
  unfold payload
  rw [encode, encode_digits_append (by simp; omega)]
  rfl

/-- The written form of bytes is not empty. -/
theorem payload_ne_nil (h : bytes ≠ []) : payload bytes ≠ [] := by
  match bytes with
  | [x] => simp [payload_one]
  | [x, y] => simp [payload_two]
  | x :: y :: z :: rest => simp [payload_three]

/-- The written form consists of whole groups. -/
theorem payload_length_mod (bytes : List UInt8) : (payload bytes).length % 4 = 0 := by
  match bytes with
  | [] => rfl
  | [x] => simp [payload_one]
  | [x, y] => simp [payload_two]
  | x :: y :: z :: rest =>
    have := payload_length_mod rest
    simp only [payload_three, List.length_cons]
    omega

/-- The groups of written bytes are read back. -/
theorem decodeFrom_payload (offset : Nat) (bytes : List UInt8) (h : bytes ≠ []) :
    decodeFrom offset (payload bytes) = .ok bytes := by
  match bytes with
  | [x] =>
    have hx := x.toNat_lt
    -- The bits of the byte and zeros are those of two digits and zeros.
    have hbytes : bytesOf (x.toNat / 4) (x.toNat % 4 * 16) 0 0 = [x, 0, 0] := bytesOf_digits x 0 0
    rw [payload_one]
    show decodeLast offset [_, _, _, _] = _
    rw [decodeLast_two (by omega) (by omega) (by omega), hbytes]
    rfl
  | [x, y] =>
    have hx := x.toNat_lt
    have hy := y.toNat_lt
    have hbytes : bytesOf (x.toNat / 4) (x.toNat % 4 * 16 + y.toNat / 16) (y.toNat % 16 * 4) 0 =
        [x, y, 0] := bytesOf_digits x y 0
    rw [payload_two]
    show decodeLast offset [_, _, _, _] = _
    rw [decodeLast_three (by omega) (by omega) (by omega) (by omega), hbytes]
    rfl
  | x :: y :: z :: rest =>
    have hx := x.toNat_lt
    have hy := y.toNat_lt
    have hz := z.toNat_lt
    rw [payload_three]
    -- Four digits are read as a last group only when nothing follows them.
    by_cases hrest : rest = []
    · rw [hrest]
      show decodeLast offset [_, _, _, _] = _
      rw [decodeLast_four (by omega) (by omega) (by omega) (by omega), bytesOf_digits]
    · rw [decodeFrom_four (by omega) (by omega) (by omega) (by omega) (payload_ne_nil hrest),
        decodeFrom_payload (offset + 4) rest hrest, bytesOf_digits]
      rfl

/-- Digits in front of a text without a blank are no blanks. -/
theorem isBlank_digits_append {values : List Nat} {text : List Char} (h : ∀ v ∈ values, v < 64)
    (htext : ∀ c ∈ text, Unicode.isBlank c = false) :
    ∀ c ∈ encode.digits values ++ text, Unicode.isBlank c = false := by
  intro c hc
  rcases List.mem_append.mp hc with hc | hc
  · obtain ⟨v, hv, rfl⟩ := List.mem_map.mp hc
    exact (digit_spec (h v hv)).2.2.2
  · exact htext c hc

/-- The written form of bytes has no blank. -/
theorem isBlank_encode (bytes : List UInt8) : ∀ c ∈ encode bytes, Unicode.isBlank c = false := by
  match bytes with
  | [] => exact nofun
  | [x] =>
    have hx := x.toNat_lt
    exact isBlank_digits_append (by simp; omega) (Text.isBlank_eq_false_of_all (by decide))
  | [x, y] =>
    have hx := x.toNat_lt
    have hy := y.toNat_lt
    exact isBlank_digits_append (by simp; omega) (Text.isBlank_eq_false_of_all (by decide))
  | x :: y :: z :: rest =>
    have hx := x.toNat_lt
    have hy := y.toNat_lt
    have hz := z.toNat_lt
    exact isBlank_digits_append (by simp; omega) (isBlank_encode rest)

/-- The written form of some bytes is not empty. -/
theorem encode_ne_nil (h : bytes ≠ []) : encode bytes ≠ [] := by
  intro hnil
  refine payload_ne_nil h ?_
  unfold payload
  rw [hnil]
  rfl

/-- Written bytes are read back. -/
theorem decode_payload (bytes : List UInt8) : decode (payload bytes) = .ok bytes := by
  by_cases h : bytes = []
  · rw [h]; rfl
  · have hmod := payload_length_mod bytes
    unfold decode
    split
    next last hlast =>
      -- The last byte is judged first only behind whole groups, of which none is left over.
      rw [if_neg (by omega), decodeFrom_payload 0 bytes h]
    next hnone =>
      exact absurd (by simpa using hnone) (payload_ne_nil h)

example : String.ofList (encode [77, 97, 110, 121]) = "TWFueQ==" := by decide

end Retrace.Base64
