import Mathlib.Tactic.IntervalCases
import Retrace.Proofs.Json.Text
import Retrace.Proofs.Text

/-!
# Tokens of JSON documents

A document has the tokens of the value that it states, however it is written
(`tokens_of_isDocument`). A numeral is the only part of a document whose end is not seen from the
part itself: what follows it must not go on with it (`EndsNumeral`), and in a document nothing that
follows does.
-/

namespace Retrace.Json

/-! ### Tokens of values -/

mutual

/-- The tokens of a value. -/
def Tree.tokens : Tree → List Token
  | .null => [.null]
  | .bool value => [.bool value]
  | .number numeral => [.number numeral.number]
  | .text content => [.text content]
  | .list elements => .openList :: (elementTokens elements ++ [.closeList])
  | .record members => .openRecord :: (memberTokens members ++ [.closeRecord])

/-- The tokens of elements, with commas between them. -/
def Tree.elementTokens : List Tree → List Token
  | [] => []
  | [element] => element.tokens
  | element :: next :: elements => element.tokens ++ .comma :: elementTokens (next :: elements)

/-- The tokens of members, with commas between them. -/
def Tree.memberTokens : List (Option String × Tree) → List Token
  | [] => []
  | [(name, value)] => .text name :: .colon :: value.tokens
  | (name, value) :: next :: members =>
    .text name :: .colon :: (value.tokens ++ .comma :: memberTokens (next :: members))

end

/-- The tokens of a list stand between brackets. -/
theorem Tree.tokens_list_append (elements : List Tree) (rest : List Token) :
    (Tree.list elements).tokens ++ rest =
      .openList :: (elementTokens elements ++ .closeList :: rest) := by
  rw [tokens, List.cons_append, List.append_assoc, List.singleton_append]

/-- The tokens of a record stand between braces. -/
theorem Tree.tokens_record_append (members : List (Option String × Tree)) (rest : List Token) :
    (Tree.record members).tokens ++ rest =
      .openRecord :: (memberTokens members ++ .closeRecord :: rest) := by
  rw [tokens, List.cons_append, List.append_assoc, List.singleton_append]

/-- The first of several elements is followed by a comma and the others. -/
theorem Tree.elementTokens_cons {element : Tree} {elements : List Tree} (h : elements ≠ []) :
    elementTokens (element :: elements) = element.tokens ++ .comma :: elementTokens elements := by
  cases elements with
  | nil => exact absurd rfl h
  | cons => rfl

/-- The first of several members is followed by a comma and the others. -/
theorem Tree.memberTokens_cons {member : Option String × Tree}
    {members : List (Option String × Tree)} (h : members ≠ []) :
    memberTokens (member :: members) =
      .text member.1 :: .colon :: (member.2.tokens ++ .comma :: memberTokens members) := by
  cases members with
  | nil => exact absurd rfl h
  | cons => rfl

namespace Token

/-! ### Numerals -/

/-- What follows a numeral does not go on with it. -/
def EndsNumeral (rest : List UInt8) : Prop :=
  ∀ byte ∈ rest.head?, isDigit byte = false ∧ byte ≠ 46 ∧ byte ≠ 101 ∧ byte ≠ 69

/-- A decimal digit is a byte that is read as its value. -/
theorem digit_of_lt {digit : Nat} (h : digit < 10) :
    ∃ byte, String.utf8EncodeChar (Nat.digitChar digit) = [byte] ∧ isDigit byte = true ∧
      byte.toNat - 48 = digit := by
  have hall : ∀ d : Fin 10, ∃ byte, String.utf8EncodeChar (Nat.digitChar d.val) = [byte] ∧
      isDigit byte = true ∧ byte.toNat - 48 = d.val := by
    intro d
    refine ⟨UInt8.ofNat (Nat.digitChar d.val).toNat, ?_⟩
    revert d
    decide
  exact hall ⟨digit, h⟩

/-- Digits are read up to the first byte that is none. -/
theorem digits_of_areDigits {row : List Nat} (h : ∀ digit ∈ row, digit < 10) {rest : List UInt8}
    (hrest : ∀ byte ∈ rest.head?, isDigit byte = false) :
    digits (Text.Utf8.encode (row.map Nat.digitChar) ++ rest) = (row, rest) := by
  obtain ⟨bytes, hbytes, hdigits, hvalues⟩ : ∃ bytes,
      Text.Utf8.encode (row.map Nat.digitChar) = bytes ∧ (∀ b ∈ bytes, isDigit b = true) ∧
        bytes.map (fun b => b.toNat - 48) = row := by
    induction row with
    | nil => exact ⟨[], rfl, by simp, rfl⟩
    | cons digit row ih =>
      obtain ⟨byte, hbyte, hdigit, hvalue⟩ := digit_of_lt (h digit List.mem_cons_self)
      obtain ⟨bytes, hbytes, hdigits, hvalues⟩ := ih fun d hd => h d (List.mem_cons_of_mem _ hd)
      refine ⟨byte :: bytes, ?_, by simpa [hdigit] using hdigits, by simp [hvalue, hvalues]⟩
      rw [List.map_cons, Text.Utf8.encode_cons, hbyte, hbytes]
      rfl
  unfold digits
  rw [hbytes, Text.takeWhile_append_of_stop hdigits hrest,
    Text.dropWhile_append_of_stop hdigits hrest, hvalues]

/-- An exponent is read up to its end. -/
theorem scanExponent_of_isExponent {negative : Bool} {whole : List Nat}
    {fraction : Option (List Nat)} {exponent : Option (Bool × List Nat)} {text : List Char}
    (h : IsExponent exponent text) {rest : List UInt8} (hrest : EndsNumeral rest) :
    scanExponent ⟨negative, whole, fraction, none⟩ (Text.Utf8.encode text ++ rest) =
      (.number (Numeral.number ⟨negative, whole, fraction, exponent⟩), rest) := by
  cases h with
  | absent =>
    cases rest with
    | nil => rfl
    | cons byte rest =>
      obtain ⟨-, -, hlower, hupper⟩ := hrest byte rfl
      show scanExponent _ (byte :: rest) = _
      unfold scanExponent
      dsimp only
      rw [if_neg (by simp [hlower, hupper])]
  | @present mark negative' sign row hmark hsign hdigits =>
    obtain ⟨hne, hlt⟩ := hdigits
    have hread := digits_of_areDigits hlt fun byte hbyte => (hrest byte hbyte).1
    have hisEmpty : row.isEmpty = false := by simpa using hne
    -- A first digit is no sign.
    have hsigned : exponentSign (Text.Utf8.encode (sign ++ row.map Nat.digitChar) ++ rest) =
        (negative', Text.Utf8.encode (row.map Nat.digitChar) ++ rest) := by
      cases hsign with
      | absent =>
        obtain ⟨digit, row, rfl⟩ := List.exists_cons_of_ne_nil hne
        obtain ⟨byte, hbyte, hdigit, -⟩ := digit_of_lt (hlt digit List.mem_cons_self)
        rw [List.nil_append, List.map_cons, Text.Utf8.encode_cons, hbyte]
        show exponentSign (byte :: _) = _
        unfold exponentSign
        split
        next heq =>
          cases heq
          cases hdigit
        next heq =>
          cases heq
          cases hdigit
        next => rfl
      | plus => rfl
      | minus => rfl
    have hletter : ∃ byte, String.utf8EncodeChar mark = [byte] ∧ (byte = 101 ∨ byte = 69) := by
      obtain rfl | rfl := hmark
      · exact ⟨101, rfl, .inl rfl⟩
      · exact ⟨69, rfl, .inr rfl⟩
    obtain ⟨byte, hbyte, heither⟩ := hletter
    rw [Text.Utf8.encode_cons, hbyte, List.append_assoc, List.singleton_append]
    unfold scanExponent
    dsimp only
    rw [if_pos heither, hsigned]
    dsimp only
    rw [hread]
    dsimp only
    rw [hisEmpty]
    rfl

/-- Neither an exponent nor what follows a numeral begins with a digit or a point. -/
theorem head_of_isExponent {exponent : Option (Bool × List Nat)} {text : List Char}
    (h : IsExponent exponent text) {rest : List UInt8} (hrest : EndsNumeral rest) :
    ∀ byte ∈ (Text.Utf8.encode text ++ rest).head?, isDigit byte = false ∧ byte ≠ 46 := by
  cases h with
  | absent => exact fun byte hbyte => ⟨(hrest byte hbyte).1, (hrest byte hbyte).2.1⟩
  | present hmark =>
    intro byte hbyte
    obtain rfl | rfl := hmark <;>
    · cases hbyte
      decide

/-- A fraction and an exponent are read up to their end. -/
theorem scanFraction_of_isFraction {negative : Bool} {whole : List Nat}
    {fraction : Option (List Nat)} {exponent : Option (Bool × List Nat)}
    {fractionText exponentText : List Char} (hfraction : IsFraction fraction fractionText)
    (hexponent : IsExponent exponent exponentText) {rest : List UInt8} (hrest : EndsNumeral rest) :
    scanFraction ⟨negative, whole, none, none⟩
        (Text.Utf8.encode (fractionText ++ exponentText) ++ rest) =
      (.number (Numeral.number ⟨negative, whole, fraction, exponent⟩), rest) := by
  have hhead := head_of_isExponent hexponent hrest
  rw [Text.Utf8.encode_append, List.append_assoc]
  cases hfraction with
  | absent =>
    show scanFraction _ (Text.Utf8.encode exponentText ++ rest) = _
    unfold scanFraction
    split
    next heq => exact absurd rfl (hhead 46 (by rw [heq]; rfl)).2
    next => exact scanExponent_of_isExponent hexponent hrest
  | @present row hdigits =>
    obtain ⟨hne, hlt⟩ := hdigits
    have hread := digits_of_areDigits hlt fun byte hbyte => (hhead byte hbyte).1
    have hisEmpty : row.isEmpty = false := by simpa using hne
    show scanFraction _ (46 :: (Text.Utf8.encode (row.map Nat.digitChar) ++
      (Text.Utf8.encode exponentText ++ rest))) = _
    rw [scanFraction, hread]
    dsimp only
    rw [hisEmpty]
    exact scanExponent_of_isExponent hexponent hrest

/-- Neither a fraction nor an exponent nor what follows a numeral begins with a digit. -/
theorem head_of_isFraction {fraction : Option (List Nat)} {exponent : Option (Bool × List Nat)}
    {fractionText exponentText : List Char} (hfraction : IsFraction fraction fractionText)
    (hexponent : IsExponent exponent exponentText) {rest : List UInt8} (hrest : EndsNumeral rest) :
    ∀ byte ∈ (Text.Utf8.encode (fractionText ++ exponentText) ++ rest).head?,
      isDigit byte = false := by
  rw [Text.Utf8.encode_append, List.append_assoc]
  cases hfraction with
  | absent => exact fun byte hbyte => (head_of_isExponent hexponent hrest byte hbyte).1
  | present =>
    intro byte hbyte
    cases hbyte
    decide

/-- A number is read behind its sign up to its end. -/
theorem scanNumber_of_areDigits (negative : Bool) {whole : List Nat}
    {fraction : Option (List Nat)} {exponent : Option (Bool × List Nat)}
    {fractionText exponentText : List Char} (hwhole : AreDigits whole)
    (hzero : whole.head? = some 0 → whole = [0]) (hfraction : IsFraction fraction fractionText)
    (hexponent : IsExponent exponent exponentText) {rest : List UInt8} (hrest : EndsNumeral rest) :
    scanNumber negative (Text.Utf8.encode
        (whole.map Nat.digitChar ++ (fractionText ++ exponentText)) ++ rest) =
      (.number (Numeral.number ⟨negative, whole, fraction, exponent⟩), rest) := by
  obtain ⟨hne, hlt⟩ := hwhole
  have hread := digits_of_areDigits hlt (head_of_isFraction hfraction hexponent hrest)
  have hisEmpty : ¬ whole.isEmpty = true := by simpa using hne
  have hleading : ¬ (whole.head? = some 0 ∧ 1 < whole.length) := by
    rintro ⟨hhead, hlength⟩
    rw [hzero hhead] at hlength
    exact absurd hlength (by decide)
  rw [Text.Utf8.encode_append, List.append_assoc]
  unfold scanNumber
  rw [hread]
  dsimp only
  rw [if_neg hisEmpty, if_neg hleading]
  exact scanFraction_of_isFraction hfraction hexponent hrest

/-- A token that begins with a digit is a number. -/
theorem next_of_lt {digit : Nat} (h : digit < 10) (bytes : List UInt8) :
    next (String.utf8EncodeChar (Nat.digitChar digit) ++ bytes) =
      some (scanNumber false (String.utf8EncodeChar (Nat.digitChar digit) ++ bytes)) := by
  interval_cases digit <;> rfl

/-- A numeral is a token by itself. -/
theorem next_of_isNumeral {numeral : Numeral} {text : List Char} (h : IsNumeral numeral text)
    {rest : List UInt8} (hrest : EndsNumeral rest) :
    next (Text.Utf8.encode text ++ rest) = some (.number numeral.number, rest) := by
  cases h with
  | @intro negative whole fraction exponent fractionText exponentText hwhole hzero hfraction
      hexponent =>
    have hnumber := scanNumber_of_areDigits negative hwhole hzero hfraction hexponent hrest
    cases negative with
    | true => exact congrArg some hnumber
    | false =>
      obtain ⟨hne, hlt⟩ := hwhole
      obtain ⟨digit, row, rfl⟩ := List.exists_cons_of_ne_nil hne
      rw [List.map_cons, List.cons_append, Text.Utf8.encode_cons, List.append_assoc] at hnumber
      show next (Text.Utf8.encode (_ :: _ ++ _) ++ _) = _
      rw [List.cons_append, Text.Utf8.encode_cons, List.append_assoc,
        next_of_lt (hlt digit List.mem_cons_self), hnumber]

/-! ### Insignificant characters -/

/-- Insignificant characters are insignificant bytes. -/
theorem isSpace_of_mem_encode {spacing : List Char} (h : IsSpacing spacing) :
    ∀ byte ∈ Text.Utf8.encode spacing, isSpace byte = true := by
  intro byte hbyte
  obtain ⟨c, hc, hbyte⟩ := List.mem_flatMap.mp hbyte
  obtain rfl | rfl | rfl | rfl := h c hc <;>
  · cases List.mem_singleton.mp hbyte
    decide

/-- Insignificant characters before a token are passed over. -/
theorem next_of_isSpacing {spacing : List Char} (h : IsSpacing spacing) (rest : List UInt8) :
    next (Text.Utf8.encode spacing ++ rest) = next rest := by
  unfold next
  rw [List.dropWhile_append_of_pos (isSpace_of_mem_encode h)]

/-- Insignificant characters do not go on with a numeral. -/
theorem EndsNumeral.append {spacing : List Char} (h : IsSpacing spacing) {rest : List UInt8}
    (hrest : EndsNumeral rest) : EndsNumeral (Text.Utf8.encode spacing ++ rest) := by
  cases hbytes : Text.Utf8.encode spacing with
  | nil => exact hrest
  | cons byte bytes =>
    intro byte' hbyte'
    cases hbyte'
    have hspace := isSpace_of_mem_encode h byte (by rw [hbytes]; exact List.mem_cons_self)
    simp only [isSpace, Bool.or_eq_true, decide_eq_true_eq] at hspace
    obtain ((rfl | rfl) | rfl) | rfl := hspace <;> decide

/-- A character is a mark, which is a token by itself. -/
inductive IsMark : Char → Token → Prop where
  /-- An opening bracket. -/
  | openList : IsMark '[' .openList
  /-- A closing bracket. -/
  | closeList : IsMark ']' .closeList
  /-- An opening brace. -/
  | openRecord : IsMark '\x7b' .openRecord
  /-- A closing brace. -/
  | closeRecord : IsMark '\x7d' .closeRecord
  /-- A comma. -/
  | comma : IsMark ',' .comma
  /-- A colon. -/
  | colon : IsMark ':' .colon

/-- A mark does not go on with a numeral. -/
theorem IsMark.endsNumeral {mark : Char} {token : Token} (h : IsMark mark token)
    (rest : List UInt8) : EndsNumeral (String.utf8EncodeChar mark ++ rest) := by
  intro byte hbyte
  cases h <;>
  · cases hbyte
    decide

end Token

/-! ### Documents -/

/-- A document starts with its first token. -/
theorem tokens_of_next {bytes rest : List UInt8} {token : Token}
    (h : Token.next bytes = some (token, rest)) : tokens bytes = token :: tokens rest := by
  rw [tokens]
  split
  next hnone => cases hnone.symm.trans h
  next hsome =>
    cases hsome.symm.trans h
    rfl

/-- A document without a first token has none. -/
theorem tokens_of_next_none {bytes : List UInt8} (h : Token.next bytes = none) :
    tokens bytes = [] := by
  rw [tokens]
  split
  next => rfl
  next hsome => cases hsome.symm.trans h

/-- A mark is read as its token. -/
theorem tokens_of_isMark {mark : Char} {token : Token} (h : Token.IsMark mark token)
    (rest : List UInt8) : tokens (String.utf8EncodeChar mark ++ rest) = token :: tokens rest := by
  cases h <;> exact tokens_of_next rfl

/-- Insignificant characters are passed over. -/
theorem tokens_of_isSpacing {spacing : List Char} (h : IsSpacing spacing) (rest : List UInt8) :
    tokens (Text.Utf8.encode spacing ++ rest) = tokens rest := by
  have hnext := Token.next_of_isSpacing h rest
  cases hrest : Token.next rest with
  | none => rw [tokens_of_next_none (hnext.trans hrest), tokens_of_next_none hrest]
  | some first => rw [tokens_of_next (hnext.trans hrest), tokens_of_next hrest]

/-- Elements that are stated are some. -/
theorem AreElements.ne_nil {elements : List Tree} {text : List Char}
    (h : AreElements elements text) : elements ≠ [] := by
  cases h <;> exact List.cons_ne_nil _ _

/-- Members that are stated are some. -/
theorem AreMembers.ne_nil {members : List (Option String × Tree)} {text : List Char}
    (h : AreMembers members text) : members ≠ [] := by
  cases h <;> exact List.cons_ne_nil _ _

/-- What stands between two marks has a token for each of them. -/
theorem tokens_of_enclosed {opening closing : Char} {first last : Token} {inner : List Char}
    {list : List Token} (hfirst : Token.IsMark opening first) (hlast : Token.IsMark closing last)
    (hinner : ∀ rest, Token.EndsNumeral rest →
      tokens (Text.Utf8.encode inner ++ rest) = list ++ tokens rest) (rest : List UInt8) :
    tokens (Text.Utf8.encode (opening :: (inner ++ [closing])) ++ rest) =
      first :: (list ++ [last]) ++ tokens rest := by
  have hbytes : Text.Utf8.encode (opening :: (inner ++ [closing])) ++ rest =
      String.utf8EncodeChar opening ++
        (Text.Utf8.encode inner ++ (String.utf8EncodeChar closing ++ rest)) := by
    simp only [Text.Utf8.encode_cons, Text.Utf8.encode_append, List.append_assoc]
    rfl
  rw [hbytes, tokens_of_isMark hfirst, hinner _ (hlast.endsNumeral rest), tokens_of_isMark hlast,
    List.cons_append, List.append_assoc, List.singleton_append]

mutual

/-- What states a value has the tokens of the value. -/
theorem tokens_of_isValue : ∀ {tree : Tree} {text : List Char}, IsValue tree text →
    ∀ rest : List UInt8, Token.EndsNumeral rest →
      tokens (Text.Utf8.encode text ++ rest) = tree.tokens ++ tokens rest
  | _, _, .null, _, _ => tokens_of_next rfl
  | _, _, .true, _, _ => tokens_of_next rfl
  | _, _, .false, _, _ => tokens_of_next rfl
  | _, _, .number hnumeral, _, hrest => tokens_of_next (Token.next_of_isNumeral hnumeral hrest)
  | _, _, .text htext, rest, _ => tokens_of_next (Token.next_of_isText htext rest)
  | _, _, .emptyList hspacing, rest, _ =>
    tokens_of_enclosed .openList .closeList (fun _ _ => tokens_of_isSpacing hspacing _) rest
  | _, _, .list helements, rest, _ =>
    tokens_of_enclosed .openList .closeList (tokens_of_areElements helements) rest
  | _, _, .emptyRecord hspacing, rest, _ =>
    tokens_of_enclosed .openRecord .closeRecord (fun _ _ => tokens_of_isSpacing hspacing _) rest
  | _, _, .record hmembers, rest, _ =>
    tokens_of_enclosed .openRecord .closeRecord (tokens_of_areMembers hmembers) rest

/-- So does what states a value between insignificant characters. -/
theorem tokens_of_isElement : ∀ {tree : Tree} {text : List Char}, IsElement tree text →
    ∀ rest : List UInt8, Token.EndsNumeral rest →
      tokens (Text.Utf8.encode text ++ rest) = tree.tokens ++ tokens rest
  | _, _, .intro hbefore hvalue hafter, rest, hrest => by
    rw [Text.Utf8.encode_append, Text.Utf8.encode_append, List.append_assoc, List.append_assoc,
      tokens_of_isSpacing hbefore, tokens_of_isValue hvalue _ (hrest.append hafter),
      tokens_of_isSpacing hafter]

/-- What states elements has the tokens of the elements. -/
theorem tokens_of_areElements : ∀ {elements : List Tree} {text : List Char},
    AreElements elements text → ∀ rest : List UInt8, Token.EndsNumeral rest →
      tokens (Text.Utf8.encode text ++ rest) = Tree.elementTokens elements ++ tokens rest
  | _, _, .last helement, rest, hrest => tokens_of_isElement helement rest hrest
  | _, _, .cons helement hothers, rest, hrest => by
    rw [Text.Utf8.encode_append, Text.Utf8.encode_cons, List.append_assoc, List.append_assoc,
      tokens_of_isElement helement _ (Token.IsMark.comma.endsNumeral _), tokens_of_isMark .comma,
      tokens_of_areElements hothers rest hrest, Tree.elementTokens_cons hothers.ne_nil,
      List.append_assoc, List.cons_append]

/-- What states a member has its name, the colon and the tokens of its value. -/
theorem tokens_of_isMember : ∀ {member : Option String × Tree} {text : List Char},
    IsMember member text → ∀ rest : List UInt8, Token.EndsNumeral rest →
      tokens (Text.Utf8.encode text ++ rest) =
        .text member.1 :: .colon :: (member.2.tokens ++ tokens rest)
  | _, _, .intro hbefore hname hafter hvalue, rest, hrest => by
    simp only [Text.Utf8.encode_append, Text.Utf8.encode_cons, List.append_assoc]
    rw [tokens_of_isSpacing hbefore, tokens_of_next (Token.next_of_isText hname _),
      tokens_of_isSpacing hafter, tokens_of_isMark .colon, tokens_of_isElement hvalue rest hrest]

/-- What states members has the tokens of the members. -/
theorem tokens_of_areMembers : ∀ {members : List (Option String × Tree)} {text : List Char},
    AreMembers members text → ∀ rest : List UInt8, Token.EndsNumeral rest →
      tokens (Text.Utf8.encode text ++ rest) = Tree.memberTokens members ++ tokens rest
  | _, _, .last hmember, rest, hrest => tokens_of_isMember hmember rest hrest
  | _, _, .cons hmember hothers, rest, hrest => by
    rw [Text.Utf8.encode_append, Text.Utf8.encode_cons, List.append_assoc, List.append_assoc,
      tokens_of_isMember hmember _ (Token.IsMark.comma.endsNumeral _), tokens_of_isMark .comma,
      tokens_of_areMembers hothers rest hrest, Tree.memberTokens_cons hothers.ne_nil,
      List.cons_append, List.cons_append, List.append_assoc, List.cons_append]

end

/-- A document has the tokens of the value that it states, however it is written. -/
theorem tokens_of_isDocument {tree : Tree} {document : List UInt8} (h : IsDocument tree document) :
    tokens document = tree.tokens := by
  obtain ⟨text, helement, rfl⟩ := h
  have hend : Token.EndsNumeral [] := fun _ hbyte => by cases hbyte
  have htokens := tokens_of_isElement helement [] hend
  have hnil : tokens [] = [] := tokens_of_next_none rfl
  rwa [hnil, List.append_nil, List.append_nil] at htokens

end Retrace.Json
