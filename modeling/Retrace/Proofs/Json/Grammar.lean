import Retrace.Json.Number
import Retrace.Text.Utf8

/-!
# The grammar of JSON documents

What a document states, and which texts state it, independently of how a document is read. The
grammar is that of RFC 8259: a value may be surrounded by insignificant characters, and so may the
name of a member; a character inside a text is spelled by itself, by a letter behind a backslash, or
by the four digits of its UTF-16 code units; a numeral starts with no needless zero.

The grammar admits code units that are half of a surrogate pair without the other half. A text with
one (`HasLoneSurrogate`) is no Unicode text, so that it has no content.
-/

namespace Retrace.Json

/-- A value that a document states. -/
inductive Tree where
  /-- The absent value. -/
  | null
  /-- A truth value. -/
  | bool (value : Bool)
  /-- A number, as it is written. -/
  | number (numeral : Numeral)
  /-- A text; nothing when it has a lone surrogate. -/
  | text (content : Option String)
  /-- A list of values. -/
  | list (elements : List Tree)
  /-- Named values, in the order in which they are stated; nothing is the name that has a lone
  surrogate. -/
  | record (members : List (Option String × Tree))

/-- The record of values with names that have a content. -/
def Tree.object (members : List (String × Tree)) : Tree :=
  .record (members.map fun member => (some member.1, member.2))

/-- The characters are insignificant between the parts of a document. -/
def IsSpacing (text : List Char) : Prop :=
  ∀ c ∈ text, c = ' ' ∨ c = '\t' ∨ c = '\n' ∨ c = '\r'

/-! ### Numerals -/

/-- The numbers are those of a row of decimal digits. -/
def AreDigits (digits : List Nat) : Prop :=
  digits ≠ [] ∧ ∀ digit ∈ digits, digit < 10

/-- The text is a fraction or the absence of one. -/
inductive IsFraction : Option (List Nat) → List Char → Prop where
  /-- There is no fraction. -/
  | absent : IsFraction none []
  /-- A point is followed by digits. -/
  | present {digits : List Nat} (hdigits : AreDigits digits) :
      IsFraction (some digits) ('.' :: digits.map Nat.digitChar)

/-- The text is the sign of an exponent; whether it is a minus. -/
inductive IsExponentSign : Bool → List Char → Prop where
  /-- There is no sign. -/
  | absent : IsExponentSign false []
  /-- There is a plus. -/
  | plus : IsExponentSign false ['+']
  /-- There is a minus. -/
  | minus : IsExponentSign true ['-']

/-- The text is an exponent or the absence of one. -/
inductive IsExponent : Option (Bool × List Nat) → List Char → Prop where
  /-- There is no exponent. -/
  | absent : IsExponent none []
  /-- The letter, of either case, is followed by digits, with or without a sign. -/
  | present {mark : Char} {negative : Bool} {sign : List Char} {digits : List Nat}
      (hmark : mark = 'e' ∨ mark = 'E') (hsign : IsExponentSign negative sign)
      (hdigits : AreDigits digits) :
      IsExponent (some (negative, digits)) (mark :: (sign ++ digits.map Nat.digitChar))

/-- The text is a numeral. -/
inductive IsNumeral : Numeral → List Char → Prop where
  /-- A minus may stand before the whole digits, which start with a zero only when it is the only
  one. -/
  | intro {negative : Bool} {whole : List Nat} {fraction : Option (List Nat)}
      {exponent : Option (Bool × List Nat)} {fractionText exponentText : List Char}
      (hwhole : AreDigits whole) (hzero : whole.head? = some 0 → whole = [0])
      (hfraction : IsFraction fraction fractionText)
      (hexponent : IsExponent exponent exponentText) :
      IsNumeral ⟨negative, whole, fraction, exponent⟩
        ((if negative then ['-'] else []) ++
          (whole.map Nat.digitChar ++ (fractionText ++ exponentText)))

/-! ### Texts -/

/-- The letters that stand behind a backslash, each with the character that it stands for. -/
def shortEscapes : List (Char × Char) :=
  [('"', '"'), ('\\', '\\'), ('/', '/'), ('b', '\x08'), ('f', '\x0c'), ('n', '\n'), ('r', '\r'),
    ('t', '\t')]

/-- The character is a hexadecimal digit of either case. -/
def IsHexDigit (value : Nat) (c : Char) : Prop :=
  value < 16 ∧ (c = Nat.digitChar value ∨ c = (Nat.digitChar value).toUpper)

/-- The text is a UTF-16 code unit given by four hexadecimal digits. -/
inductive IsUnit (code : Nat) : List Char → Prop where
  /-- The first digit is the most significant one. -/
  | intro {a b c d : Char} {i j k l : Nat} (ha : IsHexDigit i a) (hb : IsHexDigit j b)
      (hc : IsHexDigit k c) (hd : IsHexDigit l d) (hcode : code = ((i * 16 + j) * 16 + k) * 16 + l) :
      IsUnit code ['\\', 'u', a, b, c, d]

/-- A code unit is the first half of a pair. -/
def IsLeading (code : Nat) : Prop := 0xD800 ≤ code ∧ code < 0xDC00

/-- A code unit is the second half of a pair. -/
def IsTrailing (code : Nat) : Prop := 0xDC00 ≤ code ∧ code < 0xE000

/-- The text spells a character inside a text. -/
inductive Spells (c : Char) : List Char → Prop where
  /-- A character that is neither a mark nor a control spells itself. -/
  | plain (hquote : c ≠ '"') (hslash : c ≠ '\\') (hcontrol : 32 ≤ c.toNat) : Spells c [c]
  /-- A letter stands for the character. -/
  | short {letter : Char} (hletter : (letter, c) ∈ shortEscapes) : Spells c ['\\', letter]
  /-- The character is one code unit. -/
  | unit {text : List Char} (hunit : IsUnit c.toNat text) : Spells c text
  /-- The character is a pair of code units, which share the bits of its code beyond the first
  plane. -/
  | pair {high low : Nat} {first second : List Char} (hhigh : IsLeading high) (hlow : IsTrailing low)
      (hfirst : IsUnit high first) (hsecond : IsUnit low second)
      (hcode : c.toNat = 0x10000 + (high - 0xD800) * 0x400 + (low - 0xDC00)) :
      Spells c (first ++ second)

/-- The text spells the characters of a content one after the other. -/
inductive IsContent : List Char → List Char → Prop where
  /-- Nothing is spelled. -/
  | nil : IsContent [] []
  /-- The first character is spelled, and then the others are. -/
  | cons {c : Char} {content first rest : List Char} (hfirst : Spells c first)
      (hrest : IsContent content rest) : IsContent (c :: content) (first ++ rest)

/-- The text may stand between quotes, whether its code units are paired or not. -/
inductive ArePieces : List Char → Prop where
  /-- Nothing is there. -/
  | nil : ArePieces []
  /-- A character is spelled first. -/
  | char {c : Char} {first rest : List Char} (hfirst : Spells c first) (hrest : ArePieces rest) :
      ArePieces (first ++ rest)
  /-- A code unit comes first. -/
  | unit {code : Nat} {first rest : List Char} (hfirst : IsUnit code first)
      (hrest : ArePieces rest) : ArePieces (first ++ rest)

/-- The text may stand between quotes and has a surrogate without the other half of its pair. -/
inductive HasLoneSurrogate : List Char → Prop where
  /-- A second half comes without a first one. -/
  | trailing {code : Nat} {first rest : List Char} (hcode : IsTrailing code)
      (hfirst : IsUnit code first) (hrest : ArePieces rest) : HasLoneSurrogate (first ++ rest)
  /-- A first half comes without a second one right behind it. -/
  | leading {code : Nat} {first rest : List Char} (hcode : IsLeading code)
      (hfirst : IsUnit code first) (hrest : ArePieces rest)
      (hlone : ∀ code' second behind, IsTrailing code' → IsUnit code' second →
        rest ≠ second ++ behind) : HasLoneSurrogate (first ++ rest)
  /-- The surrogate comes behind a character. -/
  | behind {c : Char} {first rest : List Char} (hfirst : Spells c first)
      (hrest : HasLoneSurrogate rest) : HasLoneSurrogate (first ++ rest)

/-- The text is a text between quotes. -/
inductive IsText : Option String → List Char → Prop where
  /-- It has a content. -/
  | content {content : String} {text : List Char} (hcontent : IsContent content.toList text) :
      IsText (some content) ('"' :: (text ++ ['"']))
  /-- It has a lone surrogate. -/
  | lone {text : List Char} (hlone : HasLoneSurrogate text) : IsText none ('"' :: (text ++ ['"']))

/-! ### Values -/

mutual

/-- The text states a value. -/
inductive IsValue : Tree → List Char → Prop where
  /-- The absent value has a word. -/
  | null : IsValue .null ['n', 'u', 'l', 'l']
  /-- Truth has a word. -/
  | true : IsValue (.bool true) ['t', 'r', 'u', 'e']
  /-- Falsehood has a word. -/
  | false : IsValue (.bool false) ['f', 'a', 'l', 's', 'e']
  /-- A number is written as its numeral. -/
  | number {numeral : Numeral} {text : List Char} (hnumeral : IsNumeral numeral text) :
      IsValue (.number numeral) text
  /-- A text stands between quotes. -/
  | text {content : Option String} {text : List Char} (htext : IsText content text) :
      IsValue (.text content) text
  /-- Between the brackets of an empty list there is nothing significant. -/
  | emptyList {spacing : List Char} (hspacing : IsSpacing spacing) :
      IsValue (.list []) ('[' :: (spacing ++ [']']))
  /-- The elements of a list stand between brackets. -/
  | list {elements : List Tree} {text : List Char} (helements : AreElements elements text) :
      IsValue (.list elements) ('[' :: (text ++ [']']))
  /-- Between the braces of an empty record there is nothing significant. -/
  | emptyRecord {spacing : List Char} (hspacing : IsSpacing spacing) :
      IsValue (.record []) ('\x7b' :: (spacing ++ ['\x7d']))
  /-- The members of a record stand between braces. -/
  | record {members : List (Option String × Tree)} {text : List Char}
      (hmembers : AreMembers members text) :
      IsValue (.record members) ('\x7b' :: (text ++ ['\x7d']))

/-- The text states a value between insignificant characters. -/
inductive IsElement : Tree → List Char → Prop where
  /-- Insignificant characters may stand on either side. -/
  | intro {tree : Tree} {before text after : List Char} (hbefore : IsSpacing before)
      (hvalue : IsValue tree text) (hafter : IsSpacing after) :
      IsElement tree (before ++ (text ++ after))

/-- The text states the elements of a list, with commas between them. -/
inductive AreElements : List Tree → List Char → Prop where
  /-- The last element stands alone. -/
  | last {element : Tree} {text : List Char} (helement : IsElement element text) :
      AreElements [element] text
  /-- An element is followed by a comma and others. -/
  | cons {element : Tree} {elements : List Tree} {text rest : List Char}
      (helement : IsElement element text) (hrest : AreElements elements rest) :
      AreElements (element :: elements) (text ++ ',' :: rest)

/-- The text states a member of a record. -/
inductive IsMember : Option String × Tree → List Char → Prop where
  /-- The name, between insignificant characters, is followed by a colon and the value. -/
  | intro {name : Option String} {value : Tree} {before nameText after text : List Char}
      (hbefore : IsSpacing before) (hname : IsText name nameText) (hafter : IsSpacing after)
      (hvalue : IsElement value text) :
      IsMember (name, value) (before ++ (nameText ++ (after ++ ':' :: text)))

/-- The text states the members of a record, with commas between them. -/
inductive AreMembers : List (Option String × Tree) → List Char → Prop where
  /-- The last member stands alone. -/
  | last {member : Option String × Tree} {text : List Char} (hmember : IsMember member text) :
      AreMembers [member] text
  /-- A member is followed by a comma and others. -/
  | cons {member : Option String × Tree} {members : List (Option String × Tree)}
      {text rest : List Char} (hmember : IsMember member text) (hrest : AreMembers members rest) :
      AreMembers (member :: members) (text ++ ',' :: rest)

end

/-- The bytes are a document that states a value. -/
def IsDocument (tree : Tree) (document : List UInt8) : Prop :=
  ∃ text, IsElement tree text ∧ document = Text.Utf8.encode text

end Retrace.Json
