import Retrace.Endpoint.Form
import Retrace.Proofs.Text
import Retrace.Proofs.Utf8

/-!
# Forms

A form can hold any names and values: written out byte by byte, all characters but letters and
digits are safe from the marks between names, values and pairs (`encode_spec`), and a form that is
written so is read back to its pairs (`pairs_write`).
-/

namespace Retrace

/-- A byte that is no percent sign stands for itself. -/
theorem Url.percentDecode_cons_of_ne {byte : UInt8} (h : byte ≠ 37) (bytes : List UInt8) :
    percentDecode (byte :: bytes) = byte :: percentDecode bytes := by
  rw [percentDecode]
  rintro _ _ _ hbyte -
  exact h hbyte

namespace Form

/-! ### Written names and values -/

/-- A name or a value as it is written: letters and digits stand for themselves. -/
def encode (text : List Char) : List Char :=
  Url.percentEncode (!·.isAlphanum) text

/-- A byte is none of those that a form gives a meaning. -/
def IsSafe (byte : UInt8) : Prop := byte ≠ 38 ∧ byte ≠ 61 ∧ byte ≠ 43

/-- A letter or a digit is one byte, which is safe and no percent sign. -/
theorem utf8Encode_of_isAlphanum {c : Char} (h : c.isAlphanum = true) :
    ∃ byte, Text.Utf8.encode [c] = [byte] ∧ IsSafe byte ∧ byte ≠ 37 := by
  have hrange := Text.isAlphanum_iff.mp h
  have hbyte : (UInt8.ofNat c.toNat).toNat = c.toNat := Text.Utf8.toNat_ofNat (by omega)
  have hne {mark : UInt8} (hmark : mark.toNat < 48 ∨ mark.toNat = 61) :
      UInt8.ofNat c.toNat ≠ mark := by
    rintro rfl
    rw [hbyte] at hmark
    omega
  refine ⟨UInt8.ofNat c.toNat, ?_, ⟨hne (by decide), hne (by decide), hne (by decide)⟩,
    hne (by decide)⟩
  rw [Text.Utf8.encode_cons, Text.Utf8.utf8EncodeChar_of_lt (by omega)]
  rfl

/-- A hexadecimal digit is one byte, which is safe and stands for its number. -/
theorem utf8Encode_upperHexDigit {n : Nat} (h : n < 16) :
    ∃ byte, Text.Utf8.encode [Url.upperHexDigit n] = [byte] ∧ IsSafe byte ∧
      Hexadecimal.digit? byte.toNat = some n := by
  have hall : ∀ m : Fin 16, ∃ byte : UInt8, Text.Utf8.encode [Url.upperHexDigit m] = [byte] ∧
      (byte ≠ 38 ∧ byte ≠ 61 ∧ byte ≠ 43) ∧ Hexadecimal.digit? byte.toNat = some m.val := by
    intro m
    refine ⟨UInt8.ofNat (Url.upperHexDigit m).toNat, ?_⟩
    revert m
    decide
  exact hall ⟨n, h⟩

/-- A byte that is written out is a percent sign and two safe bytes, and is read back. -/
theorem utf8Encode_percentByte (byte : UInt8) :
    ∃ high low, Text.Utf8.encode (Url.percentByte byte) = [37, high, low] ∧ IsSafe high ∧
      IsSafe low ∧ ∀ rest,
        Url.percentDecode (37 :: high :: low :: rest) = byte :: Url.percentDecode rest := by
  have hlt := byte.toNat_lt
  obtain ⟨high, hhigh, hhighSafe, hhighDigit⟩ :=
    utf8Encode_upperHexDigit (by omega : byte.toNat / 16 < 16)
  obtain ⟨low, hlow, hlowSafe, hlowDigit⟩ :=
    utf8Encode_upperHexDigit (by omega : byte.toNat % 16 < 16)
  refine ⟨high, low, ?_, hhighSafe, hlowSafe, fun rest => ?_⟩
  · have hpieces : Url.percentByte byte = ['%'] ++ [Url.upperHexDigit (byte.toNat / 16)] ++
        [Url.upperHexDigit (byte.toNat % 16)] := rfl
    rw [hpieces, Text.Utf8.encode_append, Text.Utf8.encode_append, hhigh, hlow]
    rfl
  · have hbyte : byte.toNat / 16 * 16 + byte.toNat % 16 = byte.toNat := by omega
    rw [Url.percentDecode, hhighDigit, hlowDigit]
    dsimp only
    rw [hbyte, UInt8.ofNat_toNat]

/-- Bytes that are written out are safe, and are read back. -/
theorem percentByte_spec (bytes : List UInt8) :
    (∀ b ∈ Text.Utf8.encode (bytes.flatMap Url.percentByte), IsSafe b) ∧ ∀ rest,
      Url.percentDecode (Text.Utf8.encode (bytes.flatMap Url.percentByte) ++ rest) =
        bytes ++ Url.percentDecode rest := by
  induction bytes with
  | nil => exact ⟨nofun, fun rest => rfl⟩
  | cons byte bytes ih =>
    obtain ⟨hsafe, hread⟩ := ih
    obtain ⟨high, low, hencode, hhigh, hlow, hbyte⟩ := utf8Encode_percentByte byte
    have hpercent : IsSafe 37 := ⟨by decide, by decide, by decide⟩
    rw [List.flatMap_cons, Text.Utf8.encode_append, hencode]
    refine ⟨fun b hb => ?_, fun rest => ?_⟩
    · simp only [List.mem_append, List.mem_cons, List.not_mem_nil, or_false] at hb
      rcases hb with (rfl | rfl | rfl) | hb
      · exact hpercent
      · exact hhigh
      · exact hlow
      · exact hsafe b hb
    · simp only [List.cons_append, List.nil_append]
      rw [hbyte, hread]

/-- A character that is written is safe, and is read back. -/
theorem encode_singleton_spec (c : Char) :
    (∀ b ∈ Text.Utf8.encode (encode [c]), IsSafe b) ∧ ∀ rest,
      Url.percentDecode (Text.Utf8.encode (encode [c]) ++ rest) =
        Text.Utf8.encode [c] ++ Url.percentDecode rest := by
  unfold encode Url.percentEncode
  rw [List.flatMap_singleton]
  split
  next => exact percentByte_spec _
  next hplain =>
    have halphanum : c.isAlphanum = true := by
      simp only [Bool.or_eq_true, Bool.not_eq_true', not_or, Bool.not_eq_false] at hplain
      exact hplain.2
    obtain ⟨byte, hencode, hsafe, hne⟩ := utf8Encode_of_isAlphanum halphanum
    rw [hencode]
    refine ⟨fun b hb => ?_, fun rest => Url.percentDecode_cons_of_ne hne rest⟩
    rw [List.mem_singleton.mp hb]
    exact hsafe

/-- A name or a value that is written is safe, and is read back. -/
theorem encode_spec (text : List Char) :
    (∀ b ∈ Text.Utf8.encode (encode text), IsSafe b) ∧
      Url.percentDecode (Text.Utf8.encode (encode text)) = Text.Utf8.encode text := by
  induction text with
  | nil => exact ⟨nofun, rfl⟩
  | cons c text ih =>
    obtain ⟨hsafe, hread⟩ := ih
    obtain ⟨hfirstSafe, hfirst⟩ := encode_singleton_spec c
    have hsplit : encode ([c] ++ text) = encode [c] ++ encode text := List.flatMap_append
    rw [List.singleton_append] at hsplit
    rw [hsplit, Text.Utf8.encode_append]
    refine ⟨fun b hb => ?_, ?_⟩
    · rcases List.mem_append.mp hb with hb | hb
      · exact hfirstSafe b hb
      · exact hsafe b hb
    · rw [hfirst, hread, ← Text.Utf8.encode_append]
      rfl

/-- A name or a value is read back. -/
theorem decode_encode (text : String) : decode (Text.Utf8.encode (encode text.toList)) = text := by
  obtain ⟨hsafe, hread⟩ := encode_spec text.toList
  have hblank : (Text.Utf8.encode (encode text.toList)).map
      (fun byte => if byte = 43 then 32 else byte) = Text.Utf8.encode (encode text.toList) :=
    (List.map_congr_left fun b hb => if_neg (hsafe b hb).2.2).trans (List.map_id _)
  unfold decode
  dsimp only
  rw [hblank, hread, Text.Utf8.lenient_encode, String.ofList_toList]

/-- A name or a value is written in letters, digits and percent signs. -/
theorem isAlphanum_of_mem_encode {text : List Char} {c : Char} (h : c ∈ encode text) :
    c.isAlphanum = true ∨ c = '%' := by
  have hdigit {n : Nat} (hn : n < 16) : (Url.upperHexDigit n).isAlphanum = true := by
    have hall : ∀ m : Fin 16, (Url.upperHexDigit m).isAlphanum = true := by decide
    exact hall ⟨n, hn⟩
  unfold encode Url.percentEncode at h
  obtain ⟨d, -, hd⟩ := List.mem_flatMap.mp h
  split at hd
  next =>
    obtain ⟨byte, -, hbyte⟩ := List.mem_flatMap.mp hd
    have hlt := byte.toNat_lt
    simp only [Url.percentByte, List.mem_cons, List.not_mem_nil, or_false] at hbyte
    rcases hbyte with rfl | rfl | rfl
    · exact .inr rfl
    · exact .inl (hdigit (by omega))
    · exact .inl (hdigit (by omega))
  next hplain =>
    simp only [Bool.or_eq_true, Bool.not_eq_true', not_or, Bool.not_eq_false] at hplain
    rw [List.mem_singleton.mp hd]
    exact .inl hplain.2

/-! ### Written forms -/

/-- A pair as it is written. -/
def writePair (pair : String × String) : List Char :=
  encode pair.1.toList ++ '=' :: encode pair.2.toList

/-- A form as it is written. -/
def write (pairs : List (String × String)) : List Char :=
  ['&'].intercalate (pairs.map writePair)

/-- A form is written without number signs. -/
theorem not_mem_write (list : List (String × String)) : '#' ∉ write list := by
  have hencode (text : List Char) : '#' ∉ encode text := by
    intro h
    rcases isAlphanum_of_mem_encode h with h | h <;> exact absurd h (by decide)
  have hpair (pair : String × String) : '#' ∉ writePair pair := by
    unfold writePair
    rw [List.mem_append, List.mem_cons]
    rintro (h | h | h)
    · exact hencode _ h
    · exact absurd h (by decide)
    · exact hencode _ h
  unfold write
  induction list with
  | nil => exact List.not_mem_nil
  | cons pair list ih =>
    cases list with
    | nil => simpa [List.intercalate] using hpair pair
    | cons next list =>
      rw [List.map_cons, List.map_cons, List.intercalate_cons_cons, List.mem_append,
        List.mem_append, List.mem_singleton]
      rintro ((h | h) | h)
      · exact hpair pair h
      · exact absurd h (by decide)
      · exact ih h

/-- The bytes of a pair. -/
theorem utf8Encode_writePair (pair : String × String) :
    Text.Utf8.encode (writePair pair) = Text.Utf8.encode (encode pair.1.toList) ++
      61 :: Text.Utf8.encode (encode pair.2.toList) := by
  unfold writePair
  rw [Text.Utf8.encode_append, Text.Utf8.encode_cons]
  rfl

/-- A pair is read back. -/
theorem decodePair_writePair (pair : String × String) :
    decodePair (Text.Utf8.encode (writePair pair)) = pair := by
  have hname : ∀ b ∈ Text.Utf8.encode (encode pair.1.toList), decide (b ≠ 61) = true :=
    fun b hb => decide_eq_true ((encode_spec pair.1.toList).1 b hb).2.1
  unfold decodePair
  dsimp only
  rw [utf8Encode_writePair, List.takeWhile_append_of_pos hname, List.dropWhile_append_of_pos hname,
    List.takeWhile_cons_of_neg (by simp), List.dropWhile_cons_of_neg (by simp), List.append_nil,
    List.drop_succ_cons, List.drop_zero, decode_encode, decode_encode]

/-- The bytes of pieces with ampersands between them. -/
theorem utf8Encode_intercalate (pieces : List (List Char)) :
    Text.Utf8.encode (['&'].intercalate pieces) =
      [38].intercalate (pieces.map Text.Utf8.encode) := by
  induction pieces with
  | nil => rfl
  | cons piece pieces ih =>
    cases pieces with
    | nil => simp [List.intercalate]
    | cons next pieces =>
      rw [List.intercalate_cons_cons, Text.Utf8.encode_append, Text.Utf8.encode_append, ih]
      exact List.intercalate_cons_cons.symm

/-- A form is read back to its pairs. -/
theorem pairs_write (list : List (String × String)) : pairs (write list) = list := by
  cases list with
  | nil => rfl
  | cons pair list =>
    have hpieces : ∀ piece ∈ ((pair :: list).map writePair).map Text.Utf8.encode,
        ∃ other, piece = Text.Utf8.encode (writePair other) := by
      intro piece hpiece
      obtain ⟨_, hwritten, rfl⟩ := List.mem_map.mp hpiece
      obtain ⟨other, -, rfl⟩ := List.mem_map.mp hwritten
      exact ⟨other, rfl⟩
    have hamp : ∀ piece ∈ ((pair :: list).map writePair).map Text.Utf8.encode, 38 ∉ piece := by
      intro piece hpiece hmem
      obtain ⟨other, rfl⟩ := hpieces piece hpiece
      rw [utf8Encode_writePair, List.mem_append, List.mem_cons] at hmem
      rcases hmem with hmem | hmem | hmem
      · exact ((encode_spec _).1 _ hmem).1 rfl
      · exact absurd hmem (by decide)
      · exact ((encode_spec _).1 _ hmem).1 rfl
    have hfull : ∀ piece ∈ ((pair :: list).map writePair).map Text.Utf8.encode,
        (!piece.isEmpty) = true := by
      intro piece hpiece
      obtain ⟨other, rfl⟩ := hpieces piece hpiece
      simp [utf8Encode_writePair]
    unfold pairs write
    rw [utf8Encode_intercalate, List.splitOn_intercalate 38 hamp (by simp),
      List.filter_eq_self.mpr hfull, List.map_map, List.map_map]
    exact (List.map_congr_left fun other _ => decodePair_writePair other).trans (List.map_id _)

end Form

end Retrace
