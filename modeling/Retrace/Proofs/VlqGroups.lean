import Mathlib.Data.List.Forall2
import Mathlib.Data.List.Induction
import Mathlib.Data.Nat.Digits.Defs
import Retrace.Proofs.Utf8
import Retrace.Proofs.Vlq
import Retrace.SourceMap.Mappings

/-!
# Groups of digits

Which bytes form a segment, apart from how it is read. A segment is a row of groups; a group has at
most seven digits, of which all but the last are marked as going on (`IsGroup`). Where a text is no
segment, the first byte at fault from the left decides what is wrong with it: the bytes before it
form whole groups and the beginning of another one (`IsRun`), and with these it cannot go on
(`Offends`). `read_groups_spec` says that the reader finds just this.

The reader goes by characters, but it might as well go by bytes, since every digit is a single one
(`readFrom_eq_readBytes`). Its counters carry the digits of the group that has been begun
(`readBytes_of_isOpen`), and so it comes through a run of bytes with the numbers of their groups
(`readBytes_of_isRun`). That any bytes are a run up to their first fault is shown by adding one byte
at the end (`isRun_or_offends`).
-/

namespace Retrace.Vlq

/-- The digits in the order of their values. -/
def alphabet : List UInt8 :=
  Text.Utf8.encode "ABCDEFGHIJKLMNOPQRSTUVWXYZabcdefghijklmnopqrstuvwxyz0123456789+/".toList

/-- A byte is the digit of a value. -/
def IsDigit (byte : UInt8) (value : Nat) : Prop :=
  alphabet[value]? = some byte

/-- The bits of digits put together: the lower five of each, the first digit's the least
significant. -/
def bitsOfDigits (digits : List Nat) : Nat :=
  Nat.ofDigits 32 (digits.map (· % 32))

/-- The number that bits stand for: half of them, negative when they are odd. -/
def signed (bits : Nat) : Int :=
  if bits % 2 = 1 then -(bits / 2) else bits / 2

/-- Bytes are the beginning of a group: digits, not more than six, that are marked as going on. -/
structure IsOpen (bytes : List UInt8) (digits : List Nat) : Prop where
  /-- They have these values. -/
  areDigits : List.Forall₂ IsDigit bytes digits
  /-- Another one may follow. -/
  length_le : digits.length ≤ 6
  /-- Each of them is marked. -/
  goOn : ∀ digit ∈ digits, 32 ≤ digit

/-- Bytes are a group with its number: its beginning and a digit that is not marked. -/
def IsGroup (bytes : List UInt8) (number : Int32) : Prop :=
  ∃ front last digits digit, bytes = front ++ [last] ∧ IsOpen front digits ∧ IsDigit last digit ∧
    digit < 32 ∧ number.toInt = signed (bitsOfDigits (digits ++ [digit]))

/-- Bytes are groups with their numbers, and the beginning of another one. -/
def IsRun (bytes : List UInt8) (numbers : List Int32) (digits : List Nat) : Prop :=
  ∃ groups begun, bytes = groups.flatten ++ begun ∧ List.Forall₂ IsGroup groups numbers ∧
    IsOpen begun digits

/-- A byte cannot follow the digits of a group that has been begun. -/
inductive Offends (digits : List Nat) (byte : UInt8) : Fault → Prop where
  /-- It is no digit. -/
  | outside (houtside : ∀ value, ¬ IsDigit byte value) : Offends digits byte (.badByte byte)
  /-- It is the seventh digit and goes on. -/
  | seventh {digit : Nat} (hdigit : IsDigit byte digit) (hon : 32 ≤ digit)
      (hlength : digits.length = 6) : Offends digits byte .overflow
  /-- It ends the group, whose number does not fit 32 bits. -/
  | outOfRange {digit : Nat} (hdigit : IsDigit byte digit) (hend : digit < 32)
      (hrange : ¬ (-2 ^ 31 ≤ signed (bitsOfDigits (digits ++ [digit])) ∧
        signed (bitsOfDigits (digits ++ [digit])) < 2 ^ 31)) : Offends digits byte .overflow

/-- What is wrong with bytes that are no segment: the first one that cannot follow those before it,
or, where there is none, that the last group does not end. -/
inductive HasFault (bytes : List UInt8) : Fault → Prop where
  /-- A byte is at fault, and none before it. -/
  | byte {before after : List UInt8} {byte : UInt8} {numbers : List Int32} {digits : List Nat}
      {fault : Fault} (hsplit : bytes = before ++ byte :: after)
      (hrun : IsRun before numbers digits) (hoffends : Offends digits byte fault) :
      HasFault bytes fault
  /-- No byte is at fault. -/
  | unterminated {numbers : List Int32} {digits : List Nat} (hrun : IsRun bytes numbers digits)
      (hbegun : digits ≠ []) : HasFault bytes .unterminated

/-! ### Digits and numbers -/

variable {byte : UInt8} {bytes rest : List UInt8} {value bits : Nat} {digits : List Nat}
  {number : Int32} {numbers : List Int32} {fault : Fault}

/-- A digit has the value that is its place in the alphabet. -/
theorem isDigit_iff : IsDigit byte value ↔ Base64.value? byte.toNat = some value := by
  have halphabet : ∀ v : Fin 64, (alphabet[v.val]?.map fun byte => Base64.value? byte.toNat) =
      some (some v.val) := by decide +kernel
  have hcode : ∀ v : Fin 64, alphabet[v.val]? = some (UInt8.ofNat (Base64.code v.val)) := by
    decide +kernel
  have hlength : alphabet.length = 64 := by decide +kernel
  constructor
  · intro h
    have hlt : value < 64 := by
      rw [← hlength]
      exact (List.getElem?_eq_some_iff.mp h).1
    have hvalue := halphabet ⟨value, hlt⟩
    dsimp only at hvalue
    rw [h] at hvalue
    exact Option.some.inj hvalue
  · intro h
    have hvalue : value < 64 ∧ byte.toNat = Base64.code value := by
      unfold Base64.value? at h
      unfold Base64.code
      grind
    rw [IsDigit, hcode ⟨value, hvalue.1⟩]
    dsimp only
    rw [← hvalue.2, UInt8.ofNat_toNat]

/-- A byte is the digit of one value. -/
theorem not_isDigit_iff : (∀ value, ¬ IsDigit byte value) ↔ Base64.value? byte.toNat = none := by
  simp only [isDigit_iff, Option.eq_none_iff_forall_ne_some, ne_eq]

/-- The number that bits stand for is read if it fits 32 bits. -/
theorem number?_eq (bits : Nat) : number? bits =
    if Int32.minValue.toInt ≤ signed bits ∧ signed bits ≤ Int32.maxValue.toInt then
      some (Int32.ofInt (signed bits))
    else none :=
  rfl

/-- The number that is read is the one that the bits stand for. -/
theorem number?_eq_some_iff : number? bits = some number ↔ number.toInt = signed bits := by
  rw [number?_eq]
  constructor
  · intro h
    split at h
    next hrange =>
      cases h
      rw [Int32.toInt_minValue, Int32.toInt_maxValue] at hrange
      exact Int32.toInt_ofInt_of_le (by omega) (by omega)
    next => cases h
  · intro h
    rw [← h, if_pos ⟨number.minValue_le_toInt, number.toInt_le⟩, Int32.ofInt_toInt]

/-- No number is read when what the bits stand for is out of range. -/
theorem number?_eq_none_iff :
    number? bits = none ↔ ¬ (-2 ^ 31 ≤ signed bits ∧ signed bits < 2 ^ 31) := by
  have hrange : Int32.minValue.toInt ≤ signed bits ∧ signed bits ≤ Int32.maxValue.toInt ↔
      -2 ^ 31 ≤ signed bits ∧ signed bits < 2 ^ 31 := by
    rw [Int32.toInt_minValue, Int32.toInt_maxValue]
    omega
  rw [number?_eq, ← hrange]
  split
  next h => exact ⟨nofun, fun hnot => absurd h hnot⟩
  next h => exact ⟨fun _ => h, fun _ => rfl⟩

/-- A digit behind others adds its lower five bits above theirs. -/
theorem bitsOfDigits_concat (digits : List Nat) (digit : Nat) :
    bitsOfDigits (digits ++ [digit]) =
      bitsOfDigits digits + digit % 32 * Nat.pow 32 digits.length := by
  unfold bitsOfDigits
  rw [List.map_append, List.map_singleton, Nat.ofDigits_append, Nat.ofDigits_singleton,
    List.length_map, Nat.mul_comm]
  rfl

/-! ### Reading bytes -/

/-- Reads the rest of a segment as `readFrom` does, byte by byte. -/
def readBytesFrom (bits count : Nat) : List UInt8 → Except Fault (List Int32)
  | [] => if count = 0 then .ok [] else .error .unterminated
  | byte :: rest =>
    match Base64.value? byte.toNat with
    | none => .error (.badByte byte)
    | some digit =>
      let bits := bits + digit % 32 * Nat.pow 32 count
      if 32 ≤ digit then
        if 6 ≤ count then .error .overflow else readBytesFrom bits (count + 1) rest
      else
        match number? bits with
        | none => .error .overflow
        | some number => (readBytesFrom 0 0 rest).map (number :: ·)

/-- Reads the numbers of a segment byte by byte, behind the beginning of a group. -/
def readBytes (digits : List Nat) (bytes : List UInt8) : Except Fault (List Int32) :=
  readBytesFrom (bitsOfDigits digits) digits.length bytes

/-- Beyond ASCII there is no digit. -/
theorem value?_eq_none_of_le {code : Nat} (h : 128 ≤ code) : Base64.value? code = none := by
  unfold Base64.value?
  rw [if_neg (by omega), if_neg (by omega), if_neg (by omega), if_neg (by omega),
    if_neg (by omega)]

/-- Every digit is a single byte, and so it makes no difference whether characters or bytes are
read. -/
theorem readFrom_eq_readBytesFrom (segment : List Char) :
    ∀ bits count, readFrom bits count segment =
      readBytesFrom bits count (Text.Utf8.encode segment) := by
  induction segment with
  | nil => intro bits count; rfl
  | cons c segment ih =>
    intro bits count
    rw [Text.Utf8.encode_cons, readFrom]
    by_cases hc : c.toNat < 128
    · have hbytes := Text.Utf8.utf8EncodeChar_of_lt hc
      have hfirst : Text.Utf8.firstByte c = UInt8.ofNat c.toNat := by
        rw [Text.Utf8.firstByte, hbytes, List.headD_cons]
      have hdigit : Base64.value? (UInt8.ofNat c.toNat).toNat = digit? c := by
        rw [Text.Utf8.toNat_ofNat (by omega), digit?]
      rw [hbytes, List.singleton_append, readBytesFrom, hdigit, hfirst]
      cases digit? c with
      | none => rfl
      | some digit =>
        by_cases hmore : 32 ≤ digit
        · simp only [if_pos hmore, ih]
        · cases hnumber : number? (bits + digit % 32 * Nat.pow 32 count) with
          | none => simp only [if_neg hmore, hnumber]
          | some number => simp only [if_neg hmore, hnumber, ih]
    · -- Neither the character nor its first byte is a digit.
      have hdigit : digit? c = none := value?_eq_none_of_le (by omega)
      obtain ⟨first, others, hbytes⟩ :=
        List.exists_cons_of_ne_nil (String.utf8EncodeChar_ne_nil (c := c))
      have hfirst : Text.Utf8.firstByte c = first := by
        rw [Text.Utf8.firstByte, hbytes, List.headD_cons]
      have hhigh : 128 ≤ first.toNat :=
        Text.Utf8.le_of_mem_utf8EncodeChar (by omega) (hbytes ▸ List.mem_cons_self)
      rw [hbytes, List.cons_append, readBytesFrom, hdigit, value?_eq_none_of_le hhigh, hfirst]

/-- The numbers of a segment are read from its bytes. -/
theorem read_eq_readBytes (segment : List Char) :
    read segment = readBytes [] (Text.Utf8.encode segment) :=
  readFrom_eq_readBytesFrom segment 0 0

/-- A digit that goes on is put behind the others. -/
theorem readBytes_cons_of_le (hdigit : IsDigit byte value) (hon : 32 ≤ value)
    (hlength : digits.length < 6) :
    readBytes digits (byte :: rest) = readBytes (digits ++ [value]) rest := by
  unfold readBytes
  rw [readBytesFrom, isDigit_iff.mp hdigit]
  dsimp only
  rw [if_pos hon, if_neg (by omega), bitsOfDigits_concat, List.length_append,
    List.length_singleton]

/-- A digit that does not go on ends the group, if its number fits. -/
theorem readBytes_cons_of_lt (hdigit : IsDigit byte value) (hend : value < 32)
    (hnumber : number.toInt = signed (bitsOfDigits (digits ++ [value]))) :
    readBytes digits (byte :: rest) = (readBytes [] rest).map (number :: ·) := by
  rw [← number?_eq_some_iff, bitsOfDigits_concat] at hnumber
  unfold readBytes
  rw [readBytesFrom, isDigit_iff.mp hdigit]
  dsimp only
  rw [if_neg (by omega), hnumber]
  rfl

/-- A byte that offends is the end. -/
theorem readBytes_cons_of_offends (h : Offends digits byte fault) :
    readBytes digits (byte :: rest) = .error fault := by
  unfold readBytes
  cases h with
  | outside houtside => rw [readBytesFrom, not_isDigit_iff.mp houtside]
  | seventh hdigit hon hlength =>
    rw [readBytesFrom, isDigit_iff.mp hdigit]
    dsimp only
    rw [if_pos hon, if_pos (by omega)]
  | outOfRange hdigit hend hrange =>
    rw [← number?_eq_none_iff, bitsOfDigits_concat] at hrange
    rw [readBytesFrom, isDigit_iff.mp hdigit]
    dsimp only
    rw [if_neg (by omega), hrange]

/-- At the end no group may have been begun. -/
theorem readBytes_nil (digits : List Nat) :
    readBytes digits [] = if digits = [] then .ok [] else .error .unterminated := by
  cases digits <;> rfl

/-! ### Runs of bytes -/

/-- The beginning of a group is put behind the digits so far. -/
theorem readBytes_of_areDigits {begun : List UInt8} {values : List Nat}
    (h : List.Forall₂ IsDigit begun values) :
    ∀ digits, (digits ++ values).length ≤ 6 → (∀ value ∈ values, 32 ≤ value) →
      readBytes digits (begun ++ rest) = readBytes (digits ++ values) rest := by
  induction h with
  | nil =>
    intro digits _ _
    rw [List.nil_append, List.append_nil]
  | @cons byte value begun values hdigit _ ih =>
    intro digits hlength hon
    have happend : digits ++ value :: values = digits ++ [value] ++ values := by simp
    have hroom : digits.length < 6 := by
      rw [List.length_append, List.length_cons] at hlength
      omega
    rw [List.cons_append, readBytes_cons_of_le hdigit (hon _ List.mem_cons_self) hroom, happend]
    refine ih _ (happend ▸ hlength) fun v hv => hon v (List.mem_cons_of_mem _ hv)

/-- The beginning of a group is read as its digits. -/
theorem readBytes_of_isOpen {begun : List UInt8} (h : IsOpen begun digits) :
    readBytes [] (begun ++ rest) = readBytes digits rest :=
  readBytes_of_areDigits h.areDigits [] h.length_le h.goOn

/-- A group is read as its number. -/
theorem readBytes_of_isGroup {group : List UInt8} (h : IsGroup group number) :
    readBytes [] (group ++ rest) = (readBytes [] rest).map (number :: ·) := by
  obtain ⟨front, last, digits, digit, rfl, hopen, hdigit, hend, hnumber⟩ := h
  rw [List.append_assoc, List.singleton_append, readBytes_of_isOpen hopen,
    readBytes_cons_of_lt hdigit hend hnumber]

/-- A run is read as the numbers of its groups, and what follows it behind the digits of the last
one. -/
theorem readBytes_of_isRun (h : IsRun bytes numbers digits) :
    readBytes [] (bytes ++ rest) = (readBytes digits rest).map (numbers ++ ·) := by
  obtain ⟨groups, begun, rfl, hgroups, hopen⟩ := h
  induction hgroups with
  | nil =>
    rw [List.flatten_nil, List.nil_append, readBytes_of_isOpen hopen]
    cases readBytes digits rest <;> rfl
  | cons hgroup _ ih =>
    rw [List.flatten_cons, List.append_assoc, List.append_assoc, readBytes_of_isGroup hgroup,
      ← List.append_assoc, ih]
    cases readBytes digits rest <;> rfl

/-- A run goes on with another digit. -/
theorem IsRun.concat_of_le (h : IsRun bytes numbers digits) (hdigit : IsDigit byte value)
    (hon : 32 ≤ value) (hlength : digits.length < 6) :
    IsRun (bytes ++ [byte]) numbers (digits ++ [value]) := by
  obtain ⟨groups, begun, rfl, hgroups, hopen⟩ := h
  refine ⟨groups, begun ++ [byte], by rw [List.append_assoc], hgroups, ?_, ?_, ?_⟩
  · exact List.rel_append hopen.areDigits (.cons hdigit .nil)
  · rw [List.length_append, List.length_singleton]
    omega
  · intro v hv
    rcases List.mem_append.mp hv with hv | hv
    · exact hopen.goOn v hv
    · rwa [List.mem_singleton.mp hv]

/-- A run goes on with the last digit of a group. -/
theorem IsRun.concat_of_lt (h : IsRun bytes numbers digits) (hdigit : IsDigit byte value)
    (hend : value < 32) (hnumber : number.toInt = signed (bitsOfDigits (digits ++ [value]))) :
    IsRun (bytes ++ [byte]) (numbers ++ [number]) [] := by
  obtain ⟨groups, begun, rfl, hgroups, hopen⟩ := h
  have hgroup : IsGroup (begun ++ [byte]) number :=
    ⟨begun, byte, digits, value, rfl, hopen, hdigit, hend, hnumber⟩
  refine ⟨groups ++ [begun ++ [byte]], [], by simp, ?_, .nil, Nat.zero_le _, nofun⟩
  exact List.rel_append hgroups (.cons hgroup .nil)

/-- Behind a run every byte goes on or offends. -/
theorem IsRun.concat_or_offends (h : IsRun bytes numbers digits) (byte : UInt8) :
    (∃ numbers' digits', IsRun (bytes ++ [byte]) numbers' digits') ∨
      ∃ fault, Offends digits byte fault := by
  obtain ⟨groups, begun, hbytes, hgroups, hopen⟩ := id h
  by_cases hdigit : ∃ value, IsDigit byte value
  · obtain ⟨value, hdigit⟩ := hdigit
    rcases Nat.lt_or_ge value 32 with hend | hon
    · cases hnumber : number? (bitsOfDigits (digits ++ [value])) with
      | none => exact .inr ⟨_, .outOfRange hdigit hend (number?_eq_none_iff.mp hnumber)⟩
      | some number =>
        exact .inl ⟨_, _, h.concat_of_lt hdigit hend (number?_eq_some_iff.mp hnumber)⟩
    · rcases Nat.lt_or_ge digits.length 6 with hlength | hlength
      · exact .inl ⟨_, _, h.concat_of_le hdigit hon hlength⟩
      · have hsix : digits.length = 6 := Nat.le_antisymm hopen.length_le hlength
        exact .inr ⟨_, .seventh hdigit hon hsix⟩
  · exact .inr ⟨_, .outside (not_exists.mp hdigit)⟩

/-- Bytes are a run, or one of them offends behind a run. -/
theorem isRun_or_offends (bytes : List UInt8) :
    (∃ numbers digits, IsRun bytes numbers digits) ∨
      ∃ before byte after numbers digits fault, bytes = before ++ byte :: after ∧
        IsRun before numbers digits ∧ Offends digits byte fault := by
  induction bytes using List.reverseRecOn with
  | nil => exact .inl ⟨[], [], [], [], rfl, .nil, .nil, Nat.zero_le _, nofun⟩
  | append_singleton bytes byte ih =>
    rcases ih with ⟨numbers, digits, hrun⟩ | ⟨before, first, after, numbers, digits, fault, rfl, h⟩
    · rcases hrun.concat_or_offends byte with hgoesOn | ⟨fault, hoffends⟩
      · exact .inl hgoesOn
      · exact .inr ⟨bytes, byte, [], numbers, digits, fault, rfl, hrun, hoffends⟩
    · exact .inr ⟨before, first, after ++ [byte], numbers, digits, fault, by simp, h⟩

/-! ### Segments -/

/-- A run is a row of groups if no other one has been begun. -/
theorem isRun_nil_iff : IsRun bytes numbers [] ↔
    ∃ groups, bytes = groups.flatten ∧ List.Forall₂ IsGroup groups numbers := by
  constructor
  · rintro ⟨groups, begun, rfl, hgroups, hopen⟩
    rw [List.forall₂_nil_right_iff.mp hopen.areDigits, List.append_nil]
    exact ⟨groups, rfl, hgroups⟩
  · rintro ⟨groups, rfl, hgroups⟩
    exact ⟨groups, [], (List.append_nil _).symm, hgroups, .nil, Nat.zero_le _, nofun⟩

/-- All bytes of a run are read, and if another group has been begun, that is a fault. -/
theorem readBytes_isRun (h : IsRun bytes numbers digits) :
    readBytes [] bytes = if digits = [] then .ok numbers else .error .unterminated := by
  have hread : readBytes [] (bytes ++ []) = (readBytes digits []).map (numbers ++ ·) :=
    readBytes_of_isRun h
  rw [List.append_nil, readBytes_nil] at hread
  rw [hread]
  split
  · exact congrArg Except.ok (List.append_nil numbers)
  · rfl

/-- Bytes that have a fault are not read. -/
theorem readBytes_of_hasFault (h : HasFault bytes fault) : readBytes [] bytes = .error fault := by
  cases h with
  | byte hsplit hrun hoffends =>
    rw [hsplit, readBytes_of_isRun hrun, readBytes_cons_of_offends hoffends]
    rfl
  | unterminated hrun hbegun => rw [readBytes_isRun hrun, if_neg hbegun]

/-- Bytes are a row of groups, or they have a fault. -/
theorem isRun_or_hasFault (bytes : List UInt8) :
    (∃ numbers, IsRun bytes numbers []) ∨ ∃ fault, HasFault bytes fault := by
  rcases isRun_or_offends bytes with
    ⟨numbers, digits, hrun⟩ | ⟨before, byte, after, numbers, digits, fault, hsplit, hrun, hoffends⟩
  · by_cases hbegun : digits = []
    · exact .inl ⟨numbers, hbegun ▸ hrun⟩
    · exact .inr ⟨_, .unterminated hrun hbegun⟩
  · exact .inr ⟨fault, .byte hsplit hrun hoffends⟩

/-- Bytes are read as numbers exactly if they are groups with these. -/
theorem readBytes_eq_ok_iff : readBytes [] bytes = .ok numbers ↔ IsRun bytes numbers [] := by
  constructor
  · intro h
    rcases isRun_or_hasFault bytes with ⟨numbers', hrun⟩ | ⟨fault, hfault⟩
    · rw [readBytes_isRun hrun, if_pos rfl] at h
      cases h
      exact hrun
    · cases h.symm.trans (readBytes_of_hasFault hfault)
  · intro hrun
    rw [readBytes_isRun hrun, if_pos rfl]

/-- Bytes are not read exactly if they have a fault, and it is this fault that is told. -/
theorem readBytes_eq_error_iff : readBytes [] bytes = .error fault ↔ HasFault bytes fault := by
  constructor
  · intro h
    rcases isRun_or_hasFault bytes with ⟨numbers, hrun⟩ | ⟨fault', hfault⟩
    · cases h.symm.trans (readBytes_eq_ok_iff.mpr hrun)
    · cases h.symm.trans (readBytes_of_hasFault hfault)
      exact hfault
  · exact readBytes_of_hasFault

/-- A segment that is not empty has a number, if it is read. -/
theorem read_ne_nil {segment : List Char} (hsegment : segment ≠ [])
    (h : read segment = .ok numbers) : numbers ≠ [] := by
  rw [read_eq_readBytes, readBytes_eq_ok_iff, isRun_nil_iff] at h
  obtain ⟨groups, hgroups, hnumbers⟩ := h
  rintro rfl
  -- Without a number there is no group, and without a group no byte.
  rw [List.forall₂_nil_right_iff.mp hnumbers] at hgroups
  exact Text.Utf8.encode_ne_nil hsegment hgroups

/-- A segment is read as numbers exactly if its bytes are groups with these numbers in this order.
Otherwise its first byte at fault decides what is told, and only where there is none that its last
group does not end; of a byte outside the alphabet the character with its number is shown. Written
numbers are read back, whatever they are. -/
theorem read_groups_spec (segment : List Char) :
    (∀ numbers, read segment = .ok numbers ↔ ∃ groups,
      Text.Utf8.encode segment = groups.flatten ∧ List.Forall₂ IsGroup groups numbers) ∧
    (∀ fault, read segment = .error fault ↔ HasFault (Text.Utf8.encode segment) fault) ∧
    (∀ byte, (Mappings.vlqFault segment (.badByte byte)).message =
      "invalid VLQ character: " ++ Text.quotedChar (Char.ofNat byte.toNat)) ∧
    ∀ numbers, read (write numbers) = .ok numbers := by
  rw [read_eq_readBytes]
  refine ⟨fun numbers => ?_, fun fault => readBytes_eq_error_iff, fun byte => ?_, read_write⟩
  · rw [readBytes_eq_ok_iff, isRun_nil_iff]
  · rfl

/-- The least number has a group of seven digits; none has more. -/
example : read "hgggggE".toList = .ok [Int32.minValue] ∧
    read "gggggggB".toList = .error .overflow := by
  decide +kernel

end Retrace.Vlq
