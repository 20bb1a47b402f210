import Retrace.Text.Utf8

/-!
# UTF-8

The bytes of a text are read back to it, also by the lenient reader (`lenient_encode`): the bytes of
each character lie in the ranges that the reader expects, and their bits add up to its code.
-/

namespace Retrace.Text.Utf8

/-- The bytes of a text behind another one stand behind those of the other one. -/
theorem encode_append (before after : List Char) :
    encode (before ++ after) = encode before ++ encode after :=
  List.flatMap_append

/-- The bytes of the first character come first. -/
theorem encode_cons (c : Char) (text : List Char) :
    encode (c :: text) = String.utf8EncodeChar c ++ encode text :=
  List.flatMap_cons

/-- An ASCII character is one byte. -/
theorem utf8EncodeChar_of_lt {c : Char} (h : c.toNat < 128) :
    String.utf8EncodeChar c = [UInt8.ofNat c.toNat] := by
  have hle : c.val.toNat ≤ 127 := Nat.le_of_lt_succ h
  rw [String.utf8EncodeChar, if_pos hle]
  rfl

variable {lo hi left code n : Nat} {pending : Pending} {byte : UInt8} {bytes : List UInt8}

/-- A first byte of several is read. -/
theorem lenientFrom_of_pending (h : start byte = .pending pending) :
    lenientFrom none (byte :: bytes) = lenientFrom (some pending) bytes := by
  rw [lenientFrom]
  dsimp only
  rw [h]

/-- A byte of which others follow adds six bits. -/
theorem lenientFrom_next (hlo : lo ≤ byte.toNat) (hhi : byte.toNat ≤ hi) :
    lenientFrom (some ⟨lo, hi, left + 1, code⟩) (byte :: bytes) =
      lenientFrom (some ⟨0x80, 0xBF, left, code * 64 + (byte.toNat - 0x80)⟩) bytes := by
  rw [lenientFrom]
  dsimp only
  rw [if_pos ⟨hlo, hhi⟩]

/-- The last byte adds six bits, and the character is complete. -/
theorem lenientFrom_last (hlo : lo ≤ byte.toNat) (hhi : byte.toNat ≤ hi) :
    lenientFrom (some ⟨lo, hi, 0, code⟩) (byte :: bytes) =
      Char.ofNat (code * 64 + (byte.toNat - 0x80)) :: lenientFrom none bytes := by
  rw [lenientFrom]
  dsimp only
  rw [if_pos ⟨hlo, hhi⟩]

/-- The number of a byte. -/
theorem toNat_ofNat (h : n < 256) : (UInt8.ofNat n).toNat = n :=
  UInt8.toNat_ofNat_of_lt' h

/-- Two bytes are read as the character whose bits they hold. -/
theorem lenientFrom_two (hlo : 0x80 ≤ n) (hhi : n ≤ 0x7FF) :
    lenientFrom none ([UInt8.ofNat (n / 64 % 32 + 192), UInt8.ofNat (n % 64 + 128)] ++ bytes) =
      Char.ofNat n :: lenientFrom none bytes := by
  have hfirst := toNat_ofNat (by omega : n / 64 % 32 + 192 < 256)
  have hlast := toNat_ofNat (by omega : n % 64 + 128 < 256)
  have hstart : start (UInt8.ofNat (n / 64 % 32 + 192)) = .pending ⟨0x80, 0xBF, 0, n / 64⟩ := by
    unfold start
    dsimp only
    rw [hfirst, if_neg (by omega), if_neg (by omega), if_pos (by omega),
      show n / 64 % 32 + 192 - 0xC0 = n / 64 by omega]
  have hcode : n / 64 * 64 + (n % 64 + 128 - 0x80) = n := by omega
  rw [List.cons_append, lenientFrom_of_pending hstart, List.cons_append,
    lenientFrom_last (by omega) (by omega), hlast, hcode, List.nil_append]

/-- Three bytes are read as the character whose bits they hold. Behind the least first byte the next
one is not among the least, and behind the one of the surrogates not among the greatest. -/
theorem lenientFrom_three (hlo : 0x800 ≤ n) (hhi : n ≤ 0xFFFF) (hvalid : n < 0xD800 ∨ 0xDFFF < n) :
    lenientFrom none ([UInt8.ofNat (n / 4096 % 16 + 224), UInt8.ofNat (n / 64 % 64 + 128),
        UInt8.ofNat (n % 64 + 128)] ++ bytes) =
      Char.ofNat n :: lenientFrom none bytes := by
  have hfirst := toNat_ofNat (by omega : n / 4096 % 16 + 224 < 256)
  have hsecond := toNat_ofNat (by omega : n / 64 % 64 + 128 < 256)
  have hlast := toNat_ofNat (by omega : n % 64 + 128 < 256)
  have hstart : ∃ lo hi, start (UInt8.ofNat (n / 4096 % 16 + 224)) =
      .pending ⟨lo, hi, 1, n / 4096⟩ ∧ lo ≤ n / 64 % 64 + 128 ∧ n / 64 % 64 + 128 ≤ hi := by
    unfold start
    dsimp only
    rw [hfirst, if_neg (by omega), if_neg (by omega), if_neg (by omega)]
    split
    next h => exact ⟨0xA0, 0xBF, by rw [show n / 4096 = 0 by omega], by omega, by omega⟩
    next =>
      split
      next h => exact ⟨0x80, 0x9F, by rw [show n / 4096 = 0xD by omega], by omega, by omega⟩
      next =>
        rw [if_pos (by omega)]
        exact ⟨0x80, 0xBF, by rw [show n / 4096 % 16 + 224 - 0xE0 = n / 4096 by omega], by omega,
          by omega⟩
  obtain ⟨lo, hi, hstart, hnextLo, hnextHi⟩ := hstart
  have hcode : (n / 4096 * 64 + (n / 64 % 64 + 128 - 0x80)) * 64 + (n % 64 + 128 - 0x80) = n := by
    omega
  simp only [List.cons_append, List.nil_append]
  rw [lenientFrom_of_pending hstart, lenientFrom_next (by omega) (by omega),
    lenientFrom_last (by omega) (by omega), hsecond, hlast, hcode]

/-- Four bytes are read as the character whose bits they hold. Behind the least first byte the next
one is not among the least, and behind the greatest not among the greatest. -/
theorem lenientFrom_four (hlo : 0x10000 ≤ n) (hhi : n < 0x110000) :
    lenientFrom none ([UInt8.ofNat (n / 262144 % 8 + 240), UInt8.ofNat (n / 4096 % 64 + 128),
        UInt8.ofNat (n / 64 % 64 + 128), UInt8.ofNat (n % 64 + 128)] ++ bytes) =
      Char.ofNat n :: lenientFrom none bytes := by
  have hfirst := toNat_ofNat (by omega : n / 262144 % 8 + 240 < 256)
  have hsecond := toNat_ofNat (by omega : n / 4096 % 64 + 128 < 256)
  have hthird := toNat_ofNat (by omega : n / 64 % 64 + 128 < 256)
  have hlast := toNat_ofNat (by omega : n % 64 + 128 < 256)
  have hstart : ∃ lo hi, start (UInt8.ofNat (n / 262144 % 8 + 240)) =
      .pending ⟨lo, hi, 2, n / 262144⟩ ∧ lo ≤ n / 4096 % 64 + 128 ∧
        n / 4096 % 64 + 128 ≤ hi := by
    unfold start
    dsimp only
    rw [hfirst, if_neg (by omega), if_neg (by omega), if_neg (by omega), if_neg (by omega),
      if_neg (by omega), if_neg (by omega)]
    split
    next h => exact ⟨0x90, 0xBF, by rw [show n / 262144 = 0 by omega], by omega, by omega⟩
    next =>
      split
      next h =>
        exact ⟨0x80, 0xBF, by rw [show n / 262144 % 8 + 240 - 0xF0 = n / 262144 by omega],
          by omega, by omega⟩
      next =>
        rw [if_pos (by omega)]
        exact ⟨0x80, 0x8F, by rw [show n / 262144 = 4 by omega], by omega, by omega⟩
  obtain ⟨lo, hi, hstart, hnextLo, hnextHi⟩ := hstart
  have hcode : ((n / 262144 * 64 + (n / 4096 % 64 + 128 - 0x80)) * 64 +
      (n / 64 % 64 + 128 - 0x80)) * 64 + (n % 64 + 128 - 0x80) = n := by
    omega
  simp only [List.cons_append, List.nil_append]
  rw [lenientFrom_of_pending hstart, lenientFrom_next (by omega) (by omega),
    lenientFrom_next (by omega) (by omega), lenientFrom_last (by omega) (by omega), hsecond, hthird,
    hlast, hcode]

/-- The bytes of a character are read back. -/
theorem lenientFrom_utf8EncodeChar (c : Char) (bytes : List UInt8) :
    lenientFrom none (String.utf8EncodeChar c ++ bytes) = c :: lenientFrom none bytes := by
  -- The code is no surrogate.
  have hvalid : c.toNat < 0xD800 ∨ 0xDFFF < c.toNat ∧ c.toNat < 0x110000 := c.valid
  have hchar : Char.ofNat c.toNat = c := Char.ofNat_toNat c
  unfold String.utf8EncodeChar
  simp only [Char.toNat_val]
  split
  next h =>
    have hstart : start (UInt8.ofNat c.toNat) = .char c := by
      unfold start
      dsimp only
      rw [toNat_ofNat (by omega), if_pos (by omega), hchar]
    rw [List.cons_append, lenientFrom, List.nil_append]
    dsimp only
    rw [hstart]
  next h =>
    split
    next h' => rw [lenientFrom_two (by omega) h', hchar]
    next h' =>
      split
      next h'' => rw [lenientFrom_three (by omega) h'' (by omega), hchar]
      next h'' => rw [lenientFrom_four (by omega) (by omega), hchar]

/-- The bytes of a text are read back to it. -/
theorem lenient_encode (text : List Char) : lenient (encode text) = text := by
  unfold lenient
  induction text with
  | nil => rfl
  | cons c text ih => rw [encode_cons, lenientFrom_utf8EncodeChar, ih]

/-- The bytes of a text are read back to it by the strict reader, too. -/
theorem decode?_encode (text : List Char) : decode? (encode text) = some (String.ofList text) :=
  dif_pos (ByteArray.IsValidUTF8.intro text rfl)

/-- The bytes of a character beyond ASCII are no ASCII characters. -/
theorem le_of_mem_utf8EncodeChar {c : Char} (h : 128 ≤ c.toNat) {byte : UInt8}
    (hbyte : byte ∈ String.utf8EncodeChar c) : 128 ≤ byte.toNat := by
  have hhigh {n base : Nat} (hbase : 128 ≤ base) (hn : n + base < 256) :
      128 ≤ (UInt8.ofNat (n + base)).toNat := by
    rw [toNat_ofNat hn]
    omega
  unfold String.utf8EncodeChar at hbyte
  simp only [Char.toNat_val] at hbyte
  split at hbyte
  next hle => omega
  next =>
    split at hbyte
    · simp only [List.mem_cons, List.not_mem_nil, or_false] at hbyte
      rcases hbyte with rfl | rfl <;> exact hhigh (by omega) (by omega)
    · split at hbyte
      · simp only [List.mem_cons, List.not_mem_nil, or_false] at hbyte
        rcases hbyte with rfl | rfl | rfl <;> exact hhigh (by omega) (by omega)
      · simp only [List.mem_cons, List.not_mem_nil, or_false] at hbyte
        rcases hbyte with rfl | rfl | rfl | rfl <;> exact hhigh (by omega) (by omega)

end Retrace.Text.Utf8
