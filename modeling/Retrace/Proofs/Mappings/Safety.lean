import Retrace.Proofs.Mappings.Operations
import Retrace.Proofs.VlqGroups

/-!
# No operation of reading fails

None of the operations of reading fails, whatever the text, and so reading by operations comes to
what the reader gives (`read_operations_spec`). This is carried by `Follows`, which relates a run to
a result of the reader: they end alike, each operation has what it needs, and behind a total that
leaves its range there is no other operation. A run that is put together as the reader is follows it
if its parts do (`Follows.bind`).

What remains are the invariants of the loops. Before a digit that is the next of `count` others
their bits are below `32 ^ count`, and there are at most six of them (`readNumbers_follows`). Before
a segment all totals are numbers of 32 bits, as the counters are those of the reader
(`readSegment_follows`); and its first number is there to be taken, as a segment that is not empty
and has no fault has one (`Vlq.read_ne_nil`).
-/

namespace Retrace.Mappings.Run

/-! ### Following the reader -/

variable {α β γ δ : Type}

/-- A run and a result end alike: with values that are related, or with the same fault. -/
inductive EndsAs (R : β → α → Prop) : Except MapFault β → Except Stop α → Prop where
  /-- Both have a value. -/
  | ok {b : β} {a : α} (h : R b a) : EndsAs R (.ok b) (.ok a)
  /-- Both have a fault. -/
  | fault (fault : MapFault) : EndsAs R (.error fault) (.error (.fault fault))

/-- A run follows a result of the reader, whose value is related to its own. -/
structure Follows (R : β → α → Prop) (run : Run α) (result : Except MapFault β) : Prop where
  /-- They end alike, and so the run ends without a trap. -/
  ends : EndsAs R result run.outcome
  /-- Each operation has what it needs. -/
  sound : ∀ operation ∈ run.operations, operation.IsSound
  /-- Behind a total that leaves its range there is no operation, and the result is a fault. -/
  last : ∀ before operation after, run.operations = before ++ operation :: after →
    operation.LeavesRange → after = [] ∧ ∃ fault, result = .error fault

/-- A run comes to a value without a fault. -/
def Yields (run : Run α) (value : α) : Prop :=
  Follows (fun (_ : Unit) a => a = value) run (.ok ())

variable {R : β → α → Prop} {S : δ → γ → Prop} {run : Run α} {result : Except MapFault β}
  {operation : Operation} {a : α} {b : β}

/-- Nothing is done for a value. -/
theorem follows_pure (h : R b a) : Follows R (pure a) (.ok b) where
  ends := .ok h
  sound := nofun
  last before operation after hsplit := by cases before <;> cases hsplit

/-- Nothing is done for a fault. -/
theorem follows_fault (fault : MapFault) : Follows R (Run.fault fault) (.error fault) where
  ends := .fault fault
  sound := nofun
  last before operation after hsplit := by cases before <;> cases hsplit

/-- A run goes on behind a value as the reader does, and ends behind a fault. -/
theorem Follows.bind {next : α → Run γ} {next' : β → Except MapFault δ} (h : Follows R run result)
    (hnext : ∀ b a, result = .ok b → R b a → Follows S (next a) (next' b)) :
    Follows S (run >>= next) (result >>= next') := by
  obtain ⟨operations, outcome⟩ := run
  obtain ⟨hends, hsound, hlast⟩ := h
  cases hends with
  | fault fault =>
    refine ⟨.fault fault, hsound, fun before operation after hsplit hleaves => ?_⟩
    exact ⟨(hlast before operation after hsplit hleaves).1, fault, rfl⟩
  | @ok b a hR =>
    obtain ⟨hends', hsound', hlast'⟩ := hnext b a rfl hR
    refine ⟨hends', fun operation hmem => ?_, fun before operation after hsplit hleaves => ?_⟩
    · rcases List.mem_append.mp hmem with hmem | hmem
      · exact hsound operation hmem
      · exact hsound' operation hmem
    · rcases List.append_eq_append_iff.mp hsplit with
        ⟨between, -, hsecond⟩ | ⟨between, hfirst, hsecond⟩
      · exact hlast' between operation after hsecond hleaves
      · cases between with
        | nil => exact hlast' [] operation after hsecond.symm hleaves
        | cons first between =>
          -- The first part comes to a value, so that no total leaves its range there.
          obtain ⟨rfl, -⟩ := List.cons.inj hsecond
          obtain ⟨-, fault, hfault⟩ := hlast before operation between hfirst hleaves
          cases hfault

/-- A run that comes to a value goes on with it, while the reader does nothing. -/
theorem Yields.bind {next : α → Run γ} {result : Except MapFault δ} (h : Yields run a)
    (hnext : Follows S (next a) result) : Follows S (run >>= next) result := by
  -- Doing nothing is coming to no value at all.
  have hnothing : ((.ok () : Except MapFault Unit) >>= fun _ => result) = result := rfl
  rw [← hnothing]
  refine Follows.bind h fun _ value _ hvalue => ?_
  rw [hvalue]
  exact hnext

/-- What a result is turned into is related to what the run comes to. -/
theorem Follows.map {f : β → δ} {S : δ → α → Prop} (h : Follows R run result)
    (hRS : ∀ b a, R b a → S (f b) a) : Follows S run (result.map f) := by
  obtain ⟨operations, outcome⟩ := run
  obtain ⟨hends, hsound, hlast⟩ := h
  refine ⟨?_, hsound, fun before operation after hsplit hleaves => ?_⟩
  · cases hends with
    | ok hR => exact .ok (hRS _ _ hR)
    | fault fault => exact .fault fault
  · obtain ⟨hafter, fault, rfl⟩ := hlast before operation after hsplit hleaves
    exact ⟨hafter, fault, rfl⟩

/-- A run that follows a result comes to it, if their values are the same. -/
theorem Follows.outcome_eq {run : Run β} (h : Follows (fun b a => a = b) run result) :
    run.outcome = result.mapError .fault := by
  obtain ⟨operations, outcome⟩ := run
  obtain ⟨hends, -, -⟩ := h
  cases hends with
  | ok hR => exact congrArg Except.ok hR
  | fault fault => rfl

/-- A list of one member is split before that. -/
theorem eq_of_singleton_eq {other : Operation} {before after : List Operation}
    (h : [operation] = before ++ other :: after) : other = operation ∧ after = [] := by
  rcases List.append_eq_singleton_iff.mp h.symm with ⟨-, hbehind⟩ | ⟨-, hbehind⟩
  · exact List.cons.inj hbehind
  · cases hbehind

/-- A sound operation that lets no total leave its range is noted. -/
theorem yields_note (hsound : operation.IsSound) (hstays : ¬ operation.LeavesRange) :
    Yields (note operation) () where
  ends := .ok rfl
  sound other hmem := by rwa [List.mem_singleton.mp hmem]
  last before other after hsplit hleaves := by
    obtain ⟨rfl, -⟩ := eq_of_singleton_eq hsplit
    exact absurd hleaves hstays

/-- A sound operation may be noted before a fault. -/
theorem follows_note_fault (hsound : operation.IsSound) (fault : MapFault) :
    Follows R (do note operation; Run.fault fault) (.error fault) where
  ends := .fault fault
  sound other hmem := by rwa [List.mem_singleton.mp hmem]
  last before other after hsplit _ := ⟨(eq_of_singleton_eq hsplit).2, fault, rfl⟩

/-! ### Faults that are turned into others -/

/-- The value may be turned into another one before or after the fault. -/
theorem mapError_map {ε ε' : Type} (result : Except ε α) (f : α → β) (g : ε → ε') :
    (result.map f).mapError g = (result.mapError g).map f := by
  cases result <;> rfl

/-- A fault is turned into another one in each part of a computation. -/
theorem mapError_bind {ε ε' : Type} (result : Except ε α) (next : α → Except ε β) (g : ε → ε') :
    (result >>= next).mapError g = result.mapError g >>= fun a => (next a).mapError g := by
  cases result <;> rfl

/-- A fault that is turned into another one leaves values as they are. -/
theorem mapError_eq_ok_iff {ε ε' : Type} {result : Except ε α} {g : ε → ε'} :
    result.mapError g = .ok a ↔ result = .ok a := by
  cases result <;> simp [Except.mapError]

/-! ### Groups of digits -/

/-- Digits of a group and another one have the bits of one digit more. -/
theorem add_digit_lt {bits count : Nat} (hbits : bits < 32 ^ count) (digit : Nat) :
    bits + digit % 32 * 32 ^ count < 32 ^ (count + 1) := by
  have hdigit : digit % 32 * 32 ^ count ≤ 31 * 32 ^ count :=
    Nat.mul_le_mul_right _ (by omega)
  rw [Nat.pow_succ]
  omega

/-- Seven digits have 35 bits. -/
theorem add_digit_lt_two_pow {bits count : Nat} (hcount : count ≤ 6) (hbits : bits < 32 ^ count)
    (digit : Nat) : bits + digit % 32 * 32 ^ count < 2 ^ 35 :=
  calc bits + digit % 32 * 32 ^ count < 32 ^ (count + 1) := add_digit_lt hbits digit
    _ ≤ 32 ^ 7 := Nat.pow_le_pow_right (by omega) (by omega)
    _ = 2 ^ 35 := by norm_num

/-- Behind at most six digits another one adds its lower bits above theirs. -/
theorem yields_put {bits count : Nat} (hcount : count ≤ 6) (hbits : bits < 32 ^ count)
    (digit : Nat) : Yields (put bits digit (5 * count))
      (((bits + digit % 32 * 32 ^ count : Nat) : Int), 5 * (count + 1)) := by
  have hpower : 2 ^ (5 * count) = 32 ^ count := by rw [Nat.pow_mul]
  have hlt := add_digit_lt_two_pow hcount hbits digit
  have hsound : (Operation.put bits digit (5 * count)).IsSound := by
    refine ⟨by omega, by omega, ?_⟩
    rw [hpower]
    omega
  have hshifted : shiftWord (digit % 32 : Nat) (5 * count) =
      pure ((digit % 32 * 32 ^ count : Nat) : Int) := by
    rw [← hpower] at hlt ⊢
    exact shiftWord_of_lt (by omega) (by omega)
  have hsum : signedWord ((bits : Int) + (digit % 32 * 32 ^ count : Nat)) =
      pure ((bits + digit % 32 * 32 ^ count : Nat) : Int) := by
    rw [← Nat.cast_add]
    exact signedWord_of_lt (by omega) (by omega)
  have hnext : unsignedWord (5 * count + 5) = pure (5 * (count + 1)) :=
    unsignedWord_of_lt (by omega)
  unfold put
  rw [hshifted, pure_bind, hsum, pure_bind, hnext, pure_bind]
  exact (yields_note hsound id).bind (follows_pure rfl)

/-- The bits of at most seven digits stand for a number. -/
theorem yields_number {bits : Nat} (hbits : bits < 2 ^ 35) :
    Yields (number bits) (Vlq.signed bits) := by
  unfold number Vlq.signed
  by_cases hodd : bits % 2 = 1
  · have hsound : (Operation.negate ((bits : Int) / 2)).IsSound := ⟨by omega, by omega⟩
    have hword : signedWord (-((bits : Int) / 2)) = pure (-((bits : Int) / 2)) :=
      signedWord_of_lt (by omega) (by omega)
    rw [if_pos (by omega), if_pos hodd, hword]
    exact (yields_note hsound id).bind (follows_pure rfl)
  · rw [if_neg (by omega), if_neg hodd]
    exact follows_pure rfl

/-- Reading the bytes of a segment behind digits of a group follows the reader of bytes. -/
theorem readNumbers_follows (segment : List Char) (bytes : List UInt8) :
    ∀ (values : List Int32) (bits count : Nat), count ≤ 6 → bits < 32 ^ count →
      Follows (fun numbers all => all = values ++ numbers)
        (readNumbers segment values bits (5 * count) bytes)
        ((Vlq.readBytesFrom bits count bytes).mapError (vlqFault segment)) := by
  induction bytes with
  | nil =>
    intro values bits count _ _
    rw [readNumbers, Vlq.readBytesFrom]
    by_cases hcount : count = 0
    · rw [if_neg (by omega), if_pos hcount]
      exact follows_pure (List.append_nil values).symm
    · rw [if_pos (by omega), if_neg hcount]
      exact follows_fault _
  | cons byte bytes ih =>
    intro values bits count hcount hbits
    rw [readNumbers, Vlq.readBytesFrom]
    cases Base64.value? byte.toNat with
    | none => exact follows_fault _
    | some digit =>
      refine (yields_put hcount hbits digit).bind ?_
      dsimp only
      by_cases hon : 32 ≤ digit
      · rw [if_pos hon, if_pos hon]
        by_cases hseventh : 6 ≤ count
        · -- The shift behind a seventh digit is 35.
          rw [if_pos (by omega), if_pos hseventh]
          exact follows_fault _
        · rw [if_neg (by omega), if_neg hseventh]
          exact ih values _ (count + 1) (by omega) (add_digit_lt hbits digit)
      · rw [if_neg hon, if_neg hon]
        refine (yields_number (add_digit_lt_two_pow hcount hbits digit)).bind ?_
        rw [Vlq.number?_eq, show Nat.pow 32 count = 32 ^ count from rfl]
        generalize Vlq.signed (bits + digit % 32 * 32 ^ count) = number
        by_cases hrange : Int32.minValue.toInt ≤ number ∧ number ≤ Int32.maxValue.toInt
        · rw [if_pos hrange, if_pos hrange]
          dsimp only
          -- The next group begins behind the number of this one.
          have hrest := ih (values ++ [Int32.ofInt number]) 0 0 (by omega) (by omega)
          rw [mapError_map]
          refine hrest.map fun numbers all hall => ?_
          rw [hall, List.append_assoc, List.singleton_append]
        · rw [if_neg hrange, if_neg hrange]
          exact follows_fault _

/-- Reading the numbers of a segment follows the reader. -/
theorem readNumbers_follows_read (segment : List Char) :
    Follows (fun numbers all => all = numbers)
      (readNumbers segment [] 0 0 (Text.Utf8.encode segment))
      ((Vlq.read segment).mapError (vlqFault segment)) := by
  rw [Vlq.read_eq_readBytes]
  exact readNumbers_follows segment _ [] 0 0 (by omega) (by omega)

/-! ### Totals -/

variable {segment : List Char} {column : UInt32} {totals : Totals} {field : SegmentField}
  {delta : Int32} {values : List Int32}

/-- A number is taken from a place that a list has. -/
theorem yields_take {place : Nat} {value : Int32} (h : values[place]? = some value) :
    Yields (take values place) value := by
  obtain ⟨hplace, -⟩ := List.getElem?_eq_some_iff.mp h
  have hsound : (Operation.take values place).IsSound := hplace
  unfold take
  rw [h]
  exact (yields_note hsound id).bind (follows_pure rfl)

/-- Counting a total on follows the reader. -/
theorem count_follows {counters : Counters} {total : UInt32}
    (hfits : ∀ field, Fits (counters.get field)) (htotal : counters.get field = total.toNat) :
    Follows (fun next state => state = (next, counters.set field next.toNat))
      (count segment counters field delta)
      ((advance field total delta).mapError (.segment (String.ofList segment))) := by
  have hlow := delta.minValue_le_toInt
  have hhigh := delta.toInt_le
  rw [Int32.toInt_minValue] at hlow
  rw [Int32.toInt_maxValue] at hhigh
  have hbound := total.toNat_lt
  have hsound : (Operation.count counters field delta).IsSound :=
    ⟨hfits, by rw [htotal]; omega, by rw [htotal]; omega⟩
  have hsum := signedWord_of_lt hsound.2.1 hsound.2.2
  unfold count
  rw [hsum, pure_bind]
  rcases advance_cases field total delta with ⟨hfit, next, hadvance, hnext⟩ | ⟨hnot, hadvance⟩
  · rw [← htotal] at hfit hnext
    have hstays : ¬ (Operation.count counters field delta).LeavesRange := not_not_intro hfit
    rw [hadvance, if_pos hfit, ← hnext, Int.toNat_natCast, UInt32.ofNat_toNat]
    exact (yields_note hsound hstays).bind (follows_pure rfl)
  · rw [← htotal] at hnot
    rw [hadvance, if_neg hnot]
    exact follows_note_fault hsound _

/-! ### The loops -/

/-- With three numbers behind the column, or a fourth one for a name, the place is counted on and
then the name. -/
theorem readOrigin_place (totals : Totals) (a b c : Int32) (d? : Option Int32) :
    Mappings.readOrigin totals (a :: b :: c :: d?.toList) = (do
      let source ← advance .sourceIndex totals.source a
      let line ← advance .sourceLine totals.line b
      let place ← advance .sourceColumn totals.column c
      match d? with
      | none => return (some ⟨source, line, place, none⟩, ⟨source, line, place, totals.name⟩)
      | some d => do
        let name ← advance .nameIndex totals.name d
        return (some ⟨source, line, place, some name⟩, ⟨source, line, place, name⟩)) := by
  cases d? <;> rfl

/-- Reading an origin that has a place follows the reader. -/
theorem readOrigin_follows_place (delta a b c : Int32) (d? : Option Int32) :
    Follows (fun read state => state = (read.1, .ofTotals column read.2))
      (readOrigin segment (.ofTotals column totals) (delta :: a :: b :: c :: d?.toList))
      ((Mappings.readOrigin totals (a :: b :: c :: d?.toList)).mapError
        (.segment (String.ofList segment))) := by
  have hlength : (delta :: a :: b :: c :: d?.toList).length = 4 ∨
      (delta :: a :: b :: c :: d?.toList).length = 5 := by
    cases d? <;> simp
  rw [readOrigin, if_neg (by omega), if_pos hlength, readOrigin_place, mapError_bind]
  -- Behind each number the counters are those of the totals that have been counted on so far.
  refine (yields_take rfl).bind ((count_follows (Counters.fits_ofTotals column totals) rfl).bind ?_)
  rintro source _ - rfl
  rw [mapError_bind]
  refine (yields_take rfl).bind ((count_follows
    (Counters.fits_ofTotals column ⟨source, totals.line, totals.column, totals.name⟩) rfl).bind ?_)
  rintro line _ - rfl
  rw [mapError_bind]
  refine (yields_take rfl).bind ((count_follows
    (Counters.fits_ofTotals column ⟨source, line, totals.column, totals.name⟩) rfl).bind ?_)
  rintro place _ - rfl
  cases d? with
  | none => exact follows_pure rfl
  | some d =>
    dsimp only
    rw [mapError_bind]
    refine (count_follows
      (Counters.fits_ofTotals column ⟨source, line, place, totals.name⟩) rfl).bind ?_
    rintro name _ - rfl
    exact follows_pure rfl

/-- Reading the origin of a segment follows the reader. -/
theorem readOrigin_follows (delta : Int32) (values : List Int32) :
    Follows (fun read state => state = (read.1, .ofTotals column read.2))
      (readOrigin segment (.ofTotals column totals) (delta :: values))
      ((Mappings.readOrigin totals values).mapError (.segment (String.ofList segment))) := by
  match values with
  | [] => exact follows_pure rfl
  -- Two, three or more than five numbers with the column: nothing is counted.
  | [_] => exact follows_fault _
  | [_, _] => exact follows_fault _
  | [a, b, c] => exact readOrigin_follows_place delta a b c none
  | [a, b, c, d] => exact readOrigin_follows_place delta a b c (some d)
  | _ :: _ :: _ :: _ :: _ :: _ =>
    rw [readOrigin, if_neg (by simp), if_neg (by simp)]
    exact follows_fault _

/-- Reading a segment that is not empty follows the reader. -/
theorem readSegment_follows (line : UInt32) (hsegment : segment ≠ []) :
    Follows (fun read state => state = (read.1, .ofTotals read.1.generatedColumn read.2))
      (readSegment line (.ofTotals column totals) segment)
      (Mappings.readSegment line column totals segment) := by
  unfold readSegment Mappings.readSegment
  refine (readNumbers_follows_read segment).bind ?_
  rintro _ values hread rfl
  -- There is a number to be taken from the first place.
  have hne : values ≠ [] := Vlq.read_ne_nil hsegment (mapError_eq_ok_iff.mp hread)
  obtain ⟨delta, values, rfl⟩ := List.exists_cons_of_ne_nil hne
  rw [Mappings.readValues, mapError_bind]
  refine (yields_take rfl).bind ((count_follows (Counters.fits_ofTotals column totals) rfl).bind ?_)
  rintro next _ - rfl
  rw [mapError_bind]
  refine (readOrigin_follows delta values).bind ?_
  rintro ⟨origin, totals'⟩ _ - rfl
  exact follows_pure rfl

/-- Reading the segments of a line follows the reader, which does not keep the last column. -/
theorem readSegments_follows (line : UInt32) (segments : List (List Char))
    (hsegments : ∀ segment ∈ segments, segment ≠ []) :
    ∀ (column : UInt32) (totals : Totals),
      Follows (fun read state => ∃ column, state = (read.1, .ofTotals column read.2))
        (readSegments line (.ofTotals column totals) segments)
        (Mappings.readSegments line column totals segments) := by
  induction segments with
  | nil => exact fun column _ => follows_pure ⟨column, rfl⟩
  | cons segment segments ih =>
    intro column totals
    rw [readSegments, Mappings.readSegments]
    refine (readSegment_follows line (hsegments segment List.mem_cons_self)).bind ?_
    rintro ⟨mapping, totals₁⟩ _ - rfl
    have hrest := ih (fun s hs => hsegments s (List.mem_cons_of_mem segment hs))
      mapping.generatedColumn totals₁
    refine hrest.bind ?_
    rintro ⟨mappings, totals₂⟩ _ - ⟨last, rfl⟩
    exact follows_pure ⟨last, rfl⟩

/-- Reading the lines of a text follows the reader. -/
theorem readLines_follows (lines : List (List Char)) :
    ∀ (index : Nat) (column : UInt32) (totals : Totals),
      Follows (fun mappings all => all = mappings)
        (readLines index (.ofTotals column totals) lines)
        (Mappings.readLines index totals lines) := by
  induction lines with
  | nil => exact fun _ _ _ => follows_pure rfl
  | cons line lines ih =>
    intro index column totals
    have hsegments : ∀ segment ∈ segmentsOf line, segment ≠ [] := by
      intro segment hsegment
      simpa using (List.mem_filter.mp hsegment).2
    rw [readLines, Mappings.readLines]
    refine (readSegments_follows _ _ hsegments 0 totals).bind ?_
    rintro ⟨mappings, totals'⟩ _ - ⟨last, rfl⟩
    refine (ih (index + 1) last totals').bind ?_
    rintro rest _ - rfl
    exact follows_pure rfl

/-- Reading a text follows the reader. -/
theorem read_follows (text : String) :
    Follows (fun table all => all = table) (read text) (Mappings.read text) := by
  have hlines := readLines_follows (text.toList.splitOn ';') 0 0 .zero
  have hmap : Mappings.read text =
      Mappings.readList text.toList >>= fun mappings => .ok (.ofList mappings) := by
    unfold Mappings.read
    cases readList text.toList <;> rfl
  rw [hmap]
  refine hlines.bind ?_
  rintro mappings _ - rfl
  exact follows_pure rfl

/-- Reading any text by operations comes to what the reader gives, without a trap. Each segment that
is read has a number. Each operation has what it needs: a digit is shifted by at most 30 bits and
those of its group stay below `2 ^ 35`, a number is taken from a place that its list has, and all
totals are in their range whenever one of them is counted on, so that the sum fits a word. Behind a
total that leaves its range there is no other operation, and the text has a fault. -/
theorem read_operations_spec (text : String) :
    (read text).outcome = (Mappings.read text).mapError .fault ∧
    (∀ s ∈ segments text.toList, ∀ values, Vlq.read s.text = .ok values → values ≠ []) ∧
    (∀ operation ∈ (read text).operations, operation.IsSound) ∧
    ∀ before operation after, (read text).operations = before ++ operation :: after →
      operation.LeavesRange → after = [] ∧ ∃ fault, Mappings.read text = .error fault := by
  obtain hfollows := read_follows text
  refine ⟨hfollows.outcome_eq, fun s hs values hread => ?_, hfollows.sound, hfollows.last⟩
  exact Vlq.read_ne_nil (text_ne_nil_of_mem hs) hread

/-- The operations on a text whose first segment counts the column below zero. The second one is not
looked at. -/
theorem read_operations_spec_below_zero :
    (read "D,A").operations = [.put 0 3 0, .negate 1, .take [-1] 0,
      .count ⟨0, 0, 0, 0, 0⟩ .generatedColumn (-1)] ∧
    (Operation.count ⟨0, 0, 0, 0, 0⟩ .generatedColumn (-1)).LeavesRange ∧
    ∃ fault, Mappings.read "D,A" = .error fault ∧ (read "D,A").outcome = .error (.fault fault) := by
  have hoperations : (read "D,A").operations = [.put 0 3 0, .negate 1, .take [-1] 0] ++
      .count ⟨0, 0, 0, 0, 0⟩ .generatedColumn (-1) :: [] := by decide +kernel
  have hleaves : (Operation.count ⟨0, 0, 0, 0, 0⟩ .generatedColumn (-1)).LeavesRange := by
    show ¬ Fits _
    decide
  obtain ⟨houtcome, -, -, hlast⟩ := read_operations_spec "D,A"
  obtain ⟨-, fault, hfault⟩ := hlast _ _ _ hoperations hleaves
  refine ⟨hoperations, hleaves, fault, hfault, ?_⟩
  rw [houtcome, hfault]
  rfl

end Retrace.Mappings.Run
