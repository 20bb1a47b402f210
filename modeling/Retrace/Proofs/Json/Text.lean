import Retrace.Json.Token
import Retrace.Proofs.Json.Grammar
import Retrace.Proofs.Utf8

/-!
# Texts of JSON documents

A text between quotes is read as its content, or as none when it has a lone surrogate
(`next_of_isText`). The reader takes pieces off the text of each character which it puts together to
the bytes of the character (`IsTaken`), and the closing quote is the first one that is no part of a
piece.
-/

namespace Retrace.Json

namespace Token

/-- A text with further pieces before it. -/
def Scan.prepend (pieces : List Piece) (scan : Scan) : Scan :=
  { scan with pieces := pieces ++ scan.pieces }

/-! ### Code units -/

/-- A hexadecimal digit is a byte that is read as its value. -/
theorem hexDigit?_of_isHexDigit {value : Nat} {c : Char} (h : IsHexDigit value c) :
    ∃ byte, String.utf8EncodeChar c = [byte] ∧ hexDigit? byte = some value := by
  obtain ⟨hlt, hc⟩ := h
  have hlower : ∀ v : Fin 16, ∃ byte, String.utf8EncodeChar (Nat.digitChar v.val) = [byte] ∧
      hexDigit? byte = some v.val := by
    intro v
    refine ⟨UInt8.ofNat (Nat.digitChar v.val).toNat, ?_⟩
    revert v
    decide
  have hupper : ∀ v : Fin 16, ∃ byte,
      String.utf8EncodeChar (Nat.digitChar v.val).toUpper = [byte] ∧
        hexDigit? byte = some v.val := by
    intro v
    refine ⟨UInt8.ofNat (Nat.digitChar v.val).toUpper.toNat, ?_⟩
    revert v
    decide
  obtain rfl | rfl := hc
  · exact hlower ⟨value, hlt⟩
  · exact hupper ⟨value, hlt⟩

/-- A code unit is read as one piece. -/
theorem scanText_of_isUnit {code : Nat} {text : List Char} (h : IsUnit code text)
    (rest : List UInt8) :
    scanText (Text.Utf8.encode text ++ rest) = (scanText rest).prepend [.unit code] := by
  cases h with
  | @intro a b c d i j k l ha hb hc hd hcode =>
    obtain ⟨byteA, hbyteA, hi⟩ := hexDigit?_of_isHexDigit ha
    obtain ⟨byteB, hbyteB, hj⟩ := hexDigit?_of_isHexDigit hb
    obtain ⟨byteC, hbyteC, hk⟩ := hexDigit?_of_isHexDigit hc
    obtain ⟨byteD, hbyteD, hl⟩ := hexDigit?_of_isHexDigit hd
    have hbytes : Text.Utf8.encode ['\\', 'u', a, b, c, d] ++ rest =
        92 :: 117 :: byteA :: byteB :: byteC :: byteD :: rest := by
      simp only [Text.Utf8.encode_cons, hbyteA, hbyteB, hbyteC, hbyteD]
      rfl
    have hunit : codeUnit? byteA byteB byteC byteD = some code := by
      unfold codeUnit?
      rw [hi, hj, hk, hl, hcode]
      rfl
    rw [hbytes, scanText, hunit]
    rfl

/-- A code unit that is no surrogate stands for its character. -/
theorem assemble_unit (fault : Fault) {code : Nat} (hleading : ¬ IsLeading code)
    (htrailing : ¬ IsTrailing code) (behind : List Piece) :
    assemble fault (.unit code :: behind) =
      (assemble fault behind).map (String.utf8EncodeChar (Char.ofNat code) ++ ·) := by
  unfold IsLeading at hleading
  unfold IsTrailing at htrailing
  conv => lhs; unfold assemble
  dsimp only
  rw [if_neg hleading, if_neg htrailing, Text.Utf8.encode_cons]
  simp [Text.Utf8.encode]

/-- A pair of code units stands for the character that they share. -/
theorem assemble_pair (fault : Fault) {high low : Nat} (hhigh : IsLeading high)
    (hlow : IsTrailing low) (behind : List Piece) :
    assemble fault (.unit high :: .unit low :: behind) =
      (assemble fault behind).map (String.utf8EncodeChar
        (Char.ofNat (0x10000 + (high - 0xD800) * 0x400 + (low - 0xDC00))) ++ ·) := by
  unfold IsLeading at hhigh
  unfold IsTrailing at hlow
  conv => lhs; unfold assemble
  dsimp only
  rw [if_pos hhigh, if_pos hlow, Text.Utf8.encode_cons]
  simp [Text.Utf8.encode]

/-- A character is no surrogate. -/
theorem not_surrogate (c : Char) : ¬ IsLeading c.toNat ∧ ¬ IsTrailing c.toNat := by
  have hvalid : c.toNat < 0xD800 ∨ 0xDFFF < c.toNat ∧ c.toNat < 0x110000 := c.valid
  unfold IsLeading IsTrailing
  omega

/-! ### Characters -/

/-- The reader takes pieces off the text of a character. -/
structure IsTaken (c : Char) (text : List Char) (pieces : List Piece) : Prop where
  /-- The pieces are taken off, whatever follows. -/
  scan : ∀ rest, scanText (Text.Utf8.encode text ++ rest) = (scanText rest).prepend pieces
  /-- Together they are the bytes of the character. -/
  assemble : ∀ fault behind, assemble fault (pieces ++ behind) =
    (assemble fault behind).map (String.utf8EncodeChar c ++ ·)
  /-- The first piece is a code unit only where the text starts with this code unit. -/
  head : ∃ piece others, pieces = piece :: others ∧
    ∀ code, piece = .unit code → ∃ first behind, IsUnit code first ∧ text = first ++ behind

/-- A byte that is neither a mark nor a control stands for itself. -/
theorem scanText_cons_of_plain {byte : UInt8} (hquote : byte ≠ 34) (hslash : byte ≠ 92)
    (hcontrol : 32 ≤ byte.toNat) (rest : List UInt8) :
    scanText (byte :: rest) = (scanText rest).prepend [.byte byte] := by
  have hlt : ¬ byte < 32 := by
    rw [UInt8.lt_iff_toNat_lt]
    exact Nat.not_lt.mpr hcontrol
  rw [scanText]
  · rw [if_neg hlt]
    rfl
  · exact hquote
  · exact fun _ _ _ _ _ h _ => hslash h
  · exact fun _ h _ => hslash h
  · exact fun _ _ h _ => hslash h
  · exact fun h _ => hslash h

/-- Bytes that are neither marks nor controls stand for themselves. -/
theorem scanText_append_of_plain {bytes : List UInt8}
    (h : ∀ b ∈ bytes, b ≠ 34 ∧ b ≠ 92 ∧ 32 ≤ b.toNat) (rest : List UInt8) :
    scanText (bytes ++ rest) = (scanText rest).prepend (bytes.map .byte) := by
  induction bytes with
  | nil => rfl
  | cons byte bytes ih =>
    obtain ⟨hquote, hslash, hcontrol⟩ := h byte List.mem_cons_self
    rw [List.cons_append, scanText_cons_of_plain hquote hslash hcontrol,
      ih fun b hb => h b (List.mem_cons_of_mem byte hb)]
    rfl

/-- Bytes that stand for themselves are put together to themselves. -/
theorem assemble_bytes (fault : Fault) (bytes : List UInt8) (behind : List Piece) :
    assemble fault (bytes.map .byte ++ behind) = (assemble fault behind).map (bytes ++ ·) := by
  induction bytes with
  | nil => cases h : assemble fault behind <;> simp [h, Except.map]
  | cons byte bytes ih =>
    rw [List.map_cons, List.cons_append, assemble, ih]
    cases assemble fault behind <;> rfl

/-- Only marks and controls have bytes that are marks or controls. -/
theorem plain_of_mem_utf8EncodeChar {c : Char} (hquote : c ≠ '"') (hslash : c ≠ '\\')
    (hcode : 32 ≤ c.toNat) : ∀ b ∈ String.utf8EncodeChar c, b ≠ 34 ∧ b ≠ 92 ∧ 32 ≤ b.toNat := by
  intro byte hbyte
  by_cases hascii : c.toNat < 128
  · rw [Text.Utf8.utf8EncodeChar_of_lt hascii, List.mem_singleton] at hbyte
    subst hbyte
    have hne {mark : Char} (hmark : c ≠ mark) (hlt : mark.toNat < 128) :
        UInt8.ofNat c.toNat ≠ UInt8.ofNat mark.toNat := by
      intro heq
      have hcodes := congrArg UInt8.toNat heq
      rw [Text.Utf8.toNat_ofNat (by omega), Text.Utf8.toNat_ofNat (by omega)] at hcodes
      exact hmark (Char.toNat_inj.mp hcodes)
    refine ⟨hne hquote (by decide), hne hslash (by decide), ?_⟩
    rw [Text.Utf8.toNat_ofNat (by omega)]
    exact hcode
  · have hhigh := Text.Utf8.le_of_mem_utf8EncodeChar (by omega) hbyte
    refine ⟨?_, ?_, by omega⟩
    · rintro rfl
      exact absurd hhigh (by decide)
    · rintro rfl
      exact absurd hhigh (by decide)

/-- A character that is neither a mark nor a control is taken as its bytes. -/
theorem isTaken_of_plain {c : Char} (hquote : c ≠ '"') (hslash : c ≠ '\\')
    (hcontrol : 32 ≤ c.toNat) : IsTaken c [c] ((String.utf8EncodeChar c).map .byte) where
  scan rest := by
    rw [Text.Utf8.encode, List.flatMap_singleton]
    exact scanText_append_of_plain (plain_of_mem_utf8EncodeChar hquote hslash hcontrol) rest
  assemble _ _ := assemble_bytes _ _ _
  head := by
    obtain ⟨byte, bytes, hbytes⟩ := List.exists_cons_of_ne_nil (String.utf8EncodeChar_ne_nil (c := c))
    exact ⟨.byte byte, bytes.map .byte, by rw [hbytes, List.map_cons], fun _ h => by cases h⟩

/-- A character that has a letter of its own is taken as one byte. -/
theorem isTaken_of_short {c letter : Char} (h : (letter, c) ∈ shortEscapes) :
    IsTaken c ['\\', letter] ((String.utf8EncodeChar c).map .byte) := by
  have htaken {byte byte' : UInt8} (hletter : String.utf8EncodeChar letter = [byte])
      (hne : byte ≠ 117) (hescape : escape? byte = some byte')
      (hc : String.utf8EncodeChar c = [byte']) :
      IsTaken c ['\\', letter] ((String.utf8EncodeChar c).map .byte) := by
    refine ⟨fun rest => ?_, fun _ _ => assemble_bytes _ _ _,
      ⟨.byte byte', [], by rw [hc, List.map_singleton], fun _ h => by cases h⟩⟩
    have hbytes : Text.Utf8.encode ['\\', letter] ++ rest = 92 :: byte :: rest := by
      rw [Text.Utf8.encode_cons, Text.Utf8.encode_cons, hletter]
      rfl
    rw [hbytes, hc, scanText]
    · rw [hescape]
      rfl
    · exact fun _ _ _ _ _ h _ => hne h
    · exact fun h => hne h
  simp only [shortEscapes, List.mem_cons, Prod.mk.injEq, List.not_mem_nil, or_false] at h
  rcases h with ⟨rfl, rfl⟩ | ⟨rfl, rfl⟩ | ⟨rfl, rfl⟩ | ⟨rfl, rfl⟩ | ⟨rfl, rfl⟩ | ⟨rfl, rfl⟩ |
    ⟨rfl, rfl⟩ | ⟨rfl, rfl⟩ <;> exact htaken rfl (by decide) rfl rfl

/-- The reader takes pieces off every text that spells a character. -/
theorem exists_isTaken {c : Char} {text : List Char} (h : Spells c text) :
    ∃ pieces, IsTaken c text pieces := by
  cases h with
  | plain hquote hslash hcontrol => exact ⟨_, isTaken_of_plain hquote hslash hcontrol⟩
  | short hletter => exact ⟨_, isTaken_of_short hletter⟩
  | unit hunit =>
    obtain ⟨hleading, htrailing⟩ := not_surrogate c
    refine ⟨[.unit c.toNat], fun rest => scanText_of_isUnit hunit rest, fun fault behind => ?_,
      ⟨_, _, rfl, fun code hcode => ?_⟩⟩
    · have hassemble := assemble_unit fault hleading htrailing behind
      rwa [Char.ofNat_toNat] at hassemble
    · cases hcode
      exact ⟨text, [], hunit, (List.append_nil text).symm⟩
  | @pair high low first second hhigh hlow hfirst hsecond hcode =>
    refine ⟨[.unit high, .unit low], fun rest => ?_, fun fault behind => ?_,
      ⟨_, _, rfl, fun code hcode => ?_⟩⟩
    · rw [Text.Utf8.encode_append, List.append_assoc, scanText_of_isUnit hfirst,
        scanText_of_isUnit hsecond]
      rfl
    · have hassemble := assemble_pair fault hhigh hlow behind
      rwa [← hcode, Char.ofNat_toNat] at hassemble
    · cases hcode
      exact ⟨first, second, hfirst, rfl⟩

/-! ### Contents -/

/-- The text of a content is read up to the closing quote, as the bytes of the content. -/
theorem scanText_of_isContent {content text : List Char} (h : IsContent content text)
    (rest : List UInt8) :
    ∃ pieces, scanText (Text.Utf8.encode text ++ 34 :: rest) = ⟨pieces, none, rest⟩ ∧
      ∀ fault, assemble fault pieces = .ok (Text.Utf8.encode content) := by
  induction h with
  | nil => exact ⟨[], rfl, fun _ => rfl⟩
  | cons hfirst _ ih =>
    obtain ⟨pieces, hscan, hassemble⟩ := ih
    obtain ⟨taken, htaken⟩ := exists_isTaken hfirst
    refine ⟨taken ++ pieces, ?_, fun fault => ?_⟩
    · rw [Text.Utf8.encode_append, List.append_assoc, htaken.scan, hscan]
      rfl
    · rw [htaken.assemble, hassemble, Text.Utf8.encode_cons]
      rfl

/-- A text whose code units need not be paired is read up to the closing quote. Its first piece is a
code unit only where the text starts with this code unit. -/
theorem scanText_of_arePieces {text : List Char} (h : ArePieces text) (rest : List UInt8) :
    ∃ pieces, scanText (Text.Utf8.encode text ++ 34 :: rest) = ⟨pieces, none, rest⟩ ∧
      ∀ code others, pieces = .unit code :: others →
        ∃ first behind, IsUnit code first ∧ text = first ++ behind := by
  induction h with
  | nil => exact ⟨[], rfl, fun _ _ h => by cases h⟩
  | @char c first rest' hfirst _ ih =>
    obtain ⟨pieces, hscan, -⟩ := ih
    obtain ⟨taken, htaken⟩ := exists_isTaken hfirst
    obtain ⟨piece, others, rfl, hhead⟩ := htaken.head
    refine ⟨piece :: others ++ pieces, ?_, fun code tail htail => ?_⟩
    · rw [Text.Utf8.encode_append, List.append_assoc, htaken.scan, hscan]
      rfl
    · obtain ⟨unit, behind, hunit, rfl⟩ := hhead code (List.cons_eq_cons.mp htail).1
      exact ⟨unit, behind ++ rest', hunit, List.append_assoc ..⟩
  | @unit code first rest' hfirst _ ih =>
    obtain ⟨pieces, hscan, -⟩ := ih
    refine ⟨.unit code :: pieces, ?_, fun code' tail htail => ?_⟩
    · rw [Text.Utf8.encode_append, List.append_assoc, scanText_of_isUnit hfirst, hscan]
      rfl
    · cases htail
      exact ⟨first, rest', hfirst, rfl⟩

/-- A text with a lone surrogate is read up to the closing quote, and is not put together. -/
theorem scanText_of_hasLoneSurrogate {text : List Char} (h : HasLoneSurrogate text)
    (rest : List UInt8) :
    ∃ pieces, scanText (Text.Utf8.encode text ++ 34 :: rest) = ⟨pieces, none, rest⟩ ∧
      ∀ fault, ∃ fault', assemble fault pieces = .error fault' := by
  induction h with
  | @trailing code first rest' hcode hfirst hrest =>
    obtain ⟨pieces, hscan, -⟩ := scanText_of_arePieces hrest rest
    refine ⟨.unit code :: pieces, ?_, fun fault => ⟨.malformed, ?_⟩⟩
    · rw [Text.Utf8.encode_append, List.append_assoc, scanText_of_isUnit hfirst, hscan]
      rfl
    · unfold IsTrailing at hcode
      unfold assemble
      rw [if_neg (by omega), if_pos hcode]
  | @leading code first rest' hcode hfirst hrest hlone =>
    obtain ⟨pieces, hscan, hhead⟩ := scanText_of_arePieces hrest rest
    refine ⟨.unit code :: pieces, ?_, fun fault => ?_⟩
    · rw [Text.Utf8.encode_append, List.append_assoc, scanText_of_isUnit hfirst, hscan]
      rfl
    · unfold IsLeading at hcode
      unfold assemble
      rw [if_pos hcode]
      cases pieces with
      | nil => exact ⟨fault, rfl⟩
      | cons piece others =>
        cases piece with
        | byte => exact ⟨.malformed, rfl⟩
        | unit low =>
          refine ⟨.malformed, if_neg fun hlow => ?_⟩
          obtain ⟨second, behind, hsecond, heq⟩ := hhead low others rfl
          exact hlone low second behind hlow hsecond heq
  | behind hfirst _ ih =>
    obtain ⟨pieces, hscan, hassemble⟩ := ih
    obtain ⟨taken, htaken⟩ := exists_isTaken hfirst
    refine ⟨taken ++ pieces, ?_, fun fault => ?_⟩
    · rw [Text.Utf8.encode_append, List.append_assoc, htaken.scan, hscan]
      rfl
    · obtain ⟨fault', herror⟩ := hassemble fault
      exact ⟨fault', by rw [htaken.assemble, herror]; rfl⟩

/-- A text that has been read to its end has the content that its pieces are put together to. -/
theorem token_of_assemble {pieces : List Piece} {text : List Char} {rest : List UInt8}
    (h : ∀ fault, assemble fault pieces = .ok (Text.Utf8.encode text)) :
    (⟨pieces, none, rest⟩ : Scan).token = .text (some (String.ofList text)) := by
  have hcontent : (⟨pieces, none, rest⟩ : Scan).content = .ok (String.ofList text) := by
    unfold Scan.content
    dsimp only
    rw [h]
    dsimp only [bind, Except.bind]
    rw [Text.Utf8.decode?_encode]
    rfl
  unfold Scan.token
  dsimp only
  rw [hcontent]
  rfl

/-- A text that has been read to its end has no content when its pieces are not put together. -/
theorem token_of_assemble_error {pieces : List Piece} {rest : List UInt8}
    (h : ∀ fault, ∃ fault', assemble fault pieces = .error fault') :
    (⟨pieces, none, rest⟩ : Scan).token = .text none := by
  obtain ⟨fault, herror⟩ := h .malformed
  have hcontent : (⟨pieces, none, rest⟩ : Scan).content = .error fault := by
    unfold Scan.content
    dsimp only [Option.getD_none]
    rw [herror]
    rfl
  unfold Scan.token
  dsimp only
  rw [hcontent]
  rfl

/-- A text between quotes is a token by itself. -/
theorem next_of_isText {content : Option String} {text : List Char} (h : IsText content text)
    (rest : List UInt8) :
    next (Text.Utf8.encode text ++ rest) = some (.text content, rest) := by
  have hquotes (inner : List Char) : Text.Utf8.encode ('"' :: (inner ++ ['"'])) ++ rest =
      34 :: (Text.Utf8.encode inner ++ 34 :: rest) := by
    rw [Text.Utf8.encode_cons, Text.Utf8.encode_append, List.append_assoc, List.append_assoc]
    rfl
  have hnext {inner : List Char} {pieces : List Piece} {token : Token}
      (hscan : scanText (Text.Utf8.encode inner ++ 34 :: rest) = ⟨pieces, none, rest⟩)
      (htoken : (⟨pieces, none, rest⟩ : Scan).token = token) :
      next (Text.Utf8.encode ('"' :: (inner ++ ['"'])) ++ rest) = some (token, rest) := by
    rw [hquotes]
    show some ((scanText _).token, (scanText _).rest) = _
    rw [hscan, htoken]
  cases h with
  | content hcontent =>
    obtain ⟨pieces, hscan, hassemble⟩ := scanText_of_isContent hcontent rest
    exact hnext hscan (by rw [token_of_assemble hassemble, String.ofList_toList])
  | lone hlone =>
    obtain ⟨pieces, hscan, hassemble⟩ := scanText_of_hasLoneSurrogate hlone rest
    exact hnext hscan (token_of_assemble_error hassemble)

end Token

end Retrace.Json
