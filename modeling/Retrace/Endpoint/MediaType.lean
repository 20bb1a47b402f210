/-!
# Media types

The value of the header that says what a body is: a type and a subtype, which may end in a plus sign
and a suffix, and parameters behind semicolons. Names and plain values are tokens; a value between
quotes may hold any printable character.
-/

namespace Retrace

/-- What is known of a media type, in lower case. -/
structure MediaType where
  /-- The type. -/
  type : List Char
  /-- The subtype, without its suffix. -/
  subtype : List Char
  /-- The suffix. -/
  suffix : Option (List Char)
  deriving Repr, DecidableEq

namespace MediaType

/-- May the character stand in a token? -/
def isTokenChar (c : Char) : Bool :=
  c.isAlphanum || "!#$%&'*+-.^_\x60|~".toList.contains c

/-- May the character stand between quotes? -/
def isQuotedChar (c : Char) : Bool := ' ' ≤ c && c < '\x7f'

/-- Where a reader of parameters stands. -/
inductive Place where
  /-- Before the name of a parameter, where blanks may stand. -/
  | start
  /-- Inside a name. -/
  | name
  /-- Right behind the equals sign. -/
  | value
  /-- Inside a value without quotes. -/
  | plain
  /-- Right behind the opening quote. -/
  | opened
  /-- Inside a value between quotes. -/
  | quoted
  /-- Behind the closing quote, where blanks may stand. -/
  | closed
  deriving DecidableEq

/-- Where a character leads, nothing when it may not stand there. -/
def Place.next? (c : Char) : Place → Option Place
  | .start => if c = ' ' then some .start else if isTokenChar c then some .name else none
  | .name => if c = '=' then some .value else if isTokenChar c then some .name else none
  | .value => if c = '"' then some .opened else if isTokenChar c then some .plain else none
  | .plain => if c = ';' then some .start else if isTokenChar c then some .plain else none
  | .opened => if c ≠ '"' ∧ isQuotedChar c then some .quoted else none
  | .quoted =>
    if c = '"' then some .closed else if isQuotedChar c then some .quoted else none
  | .closed => if c = ';' then some .start else if c = ' ' then some .closed else none

/-- May parameters end here? -/
def Place.isEnd (place : Place) : Bool :=
  place = .start || place = .value || place = .plain || place = .closed

/-- Are these well-formed parameters? -/
def isParameters (text : List Char) : Bool :=
  (text.foldlM (fun place c => Place.next? c place) Place.start).any Place.isEnd

/-- Splits the subtype from its suffix at the last plus sign that is not its first character. -/
def splitSuffix (name : List Char) : List Char × Option (List Char) :=
  let backwards := name.reverse
  match (backwards.dropWhile (· ≠ '+')) with
  | _ :: c :: before =>
    ((c :: before).reverse, some (backwards.takeWhile (· ≠ '+')).reverse)
  | _ => (name, none)

/-- Reads a media type. -/
def read? (text : List Char) : Option MediaType := do
  let type := text.takeWhile isTokenChar
  guard (!type.isEmpty)
  match text.dropWhile isTokenChar with
  | '/' :: rest =>
    let name := rest.takeWhile isTokenChar
    match rest.dropWhile isTokenChar with
    | [] => pure ()
    | ';' :: parameters => guard (!name.isEmpty && isParameters parameters)
    | _ => none
    let (subtype, suffix) := splitSuffix (name.map Char.toLower)
    return ⟨type.map Char.toLower, subtype, suffix⟩
  | _ => none

/-- Is a body of this media type JSON? -/
def isJson (mediaType : MediaType) : Bool :=
  mediaType.type = "application".toList &&
    (mediaType.subtype = "json".toList || mediaType.suffix = some "json".toList)

end MediaType

end Retrace
