import Retrace.Url.Host
import Retrace.Url.Segments

/-!
# Reading URLs

A text is read as a URL of its own or as a reference seen from another URL. Controls and spaces
around it, and tabs and line ends inside it, do not count. A reference with a scheme stands for
itself, except that a special scheme without two slashes continues a base of the same scheme; a
reference without a scheme takes over the parts of the base before the first part it gives.
-/

namespace Retrace.Url

/-- Is the character a control or a space? -/
def isControlOrSpace (c : Char) : Bool := c ≤ ' '

/-- Is the character a tab or a line end? -/
def isIgnored (c : Char) : Bool := c = '\t' || c = '\n' || c = '\r'

/-- The characters of a text that count. -/
def significant (text : List Char) : List Char :=
  (Text.dropTrailing isControlOrSpace (text.dropWhile isControlOrSpace)).filter (!isIgnored ·)

/-- May the character stand in a scheme behind its first letter? -/
def isSchemeChar (c : Char) : Bool := c.isAlphanum || c = '+' || c = '-' || c = '.'

/-- Splits off the scheme of a text. -/
def splitScheme? : List Char → Option (List Char × List Char)
  | [] => none
  | c :: text =>
    if c.isAlpha then
      match text.dropWhile isSchemeChar with
      | ':' :: rest => some ((c :: text.takeWhile isSchemeChar).map Char.toLower, rest)
      | _ => none
    else none

/-- Gives a URL the query and the fragment that a text starts with. -/
def withTail (url : Url) (text : List Char) : Url :=
  let fragmentOf : List Char → Option (List Char)
    | '#' :: fragment => some (percentEncode inFragment fragment)
    | _ => none
  match text with
  | '?' :: rest =>
    let reserved := if isSpecialScheme url.scheme then inSpecialQuery else inQuery
    { url with
      query := some (percentEncode reserved (rest.takeWhile (· ≠ '#')))
      fragment := fragmentOf (rest.dropWhile (· ≠ '#')) }
  | _ => { url with query := none, fragment := fragmentOf text }

/-- Is the character a slash or a backslash? -/
def isAnySlash (c : Char) : Bool := c = '/' || c = '\\'

/-- How the path of a URL with a scheme is read. -/
def pathRules (scheme : List Char) : PathRules :=
  ⟨isSpecialScheme scheme, isFileScheme scheme⟩

/-- Gives a URL the path that a text starts with, behind the segments `before`, and what follows. -/
def withPath (url : Url) (before : List (List Char)) (text : List Char) : Url :=
  let (segments, rest) := (pathRules url.scheme).read before [] text
  withTail { url with path := .segments segments } rest

/-! ### Authorities -/

/-- Does the character end an authority? -/
def endsAuthority (isSpecial : Bool) (c : Char) : Bool :=
  isSlash isSpecial c || endsPath c

/-- Splits off the user and the password in front of the last `@` of an authority. -/
def splitUserinfo (isSpecial : Bool) (text : List Char) :
    Except Fault (List Char × List Char) :=
  let authority := text.takeWhile (!endsAuthority isSpecial ·)
  match Text.splitLast? '@' authority with
  | none => .ok ([], text)
  | some (userinfo, _) =>
    let rest := text.drop (userinfo.length + 1)
    if userinfo.isEmpty then
      if (rest.head?.map (endsAuthority isSpecial)).getD false then .error .emptyHost
      else .ok ([], rest)
    else
      let user := percentEncode inUserinfo (userinfo.takeWhile (· ≠ ':'))
      let password := percentEncode inUserinfo ((userinfo.dropWhile (· ≠ ':')).drop 1)
      .ok (user ++ (if password.isEmpty then [] else ':' :: password), rest)

/-- Splits off the text of a host: up to a colon outside of brackets or the end of the
authority. -/
def splitHost (isSpecial inBrackets : Bool) : List Char → List Char × List Char
  | [] => ([], [])
  | c :: text =>
    if endsAuthority isSpecial c || (c = ':' && !inBrackets) then ([], c :: text)
    else
      let inBrackets := c = '[' || (inBrackets && c ≠ ']')
      let (host, rest) := splitHost isSpecial inBrackets text
      (c :: host, rest)

/-- Splits off a port behind its colon. Without digits there is none. -/
def splitPort (text : List Char) : Except Fault (Option Nat × List Char) :=
  let digits := text.takeWhile Char.isDigit
  let rest := text.dropWhile Char.isDigit
  let port := digits.foldl (fun acc c => acc * 10 + (c.toNat - 48)) 0
  if 65535 < port then .error .badPort
  else if (rest.head?.map (endsAuthority true)).getD true then
    .ok (if digits.isEmpty then none else some port, rest)
  else .error .badPort

/-- Gives a URL without a path what follows its authority: a path, a query and a fragment. A special
URL always has a path. -/
def withRest (url : Url) (text : List Char) : Url :=
  let isSpecial := isSpecialScheme url.scheme
  match text with
  | c :: rest =>
    if isSlash isSpecial c then url.withPath [] rest
    else if endsPath c ∧ !isSpecial then url.withTail text
    else url.withPath [] text
  | [] => if isSpecial then url.withPath [] [] else url

/-- Splits off a port with the colon before it, if there is one. -/
def splitColonPort : List Char → Except Fault (Option Nat × List Char)
  | ':' :: text => splitPort text
  | text => .ok (none, text)

/-- Refuses an authority in which the host is missing. -/
def requireHost (isMissing : Bool) : Except Fault Unit :=
  if isMissing then .error .emptyHost else .ok ()

/-- Reads an authority and what follows it, behind the two slashes. -/
def readAuthority (scheme text : List Char) : Except Fault Url := do
  let isSpecial := isSpecialScheme scheme
  let (userinfo, text) ← splitUserinfo isSpecial text
  let (hostText, text) := splitHost isSpecial false text
  requireHost (isSpecial && hostText.isEmpty)
  let host ← Host.read isSpecial hostText
  requireHost (host.isEmpty && text.head? == some ':')
  let (port, text) ← splitColonPort text
  requireHost (host.isEmpty && !userinfo.isEmpty)
  -- The scheme's own port is left out.
  let port := if port = defaultPort? scheme then none else port
  let url : Url := ⟨scheme, some ⟨userinfo, host, port⟩, .segments [], none, none⟩
  return url.withRest text

/-! ### References without a scheme -/

/-- A reference that is a fragment. -/
def withFragment (base : Url) (fragment : List Char) : Url :=
  { base with fragment := some (percentEncode inFragment fragment) }

/-- The segments of a base before its last one. -/
def parentSegments (base : Url) : List (List Char) :=
  base.path.toList.dropLast

/-- Reads a reference seen from a base that is hierarchical and no file. -/
def readRelative (base : Url) (text : List Char) : Except Fault Url :=
  match text with
  | [] => .ok { base with fragment := none }
  | '?' :: _ => .ok (base.withTail text)
  | '#' :: fragment => .ok (base.withFragment fragment)
  | c :: rest =>
    if isAnySlash c then
      if (rest.head?.map isAnySlash).getD false then
        match text with
        -- Two slashes are taken off as they are; where backslashes are among them, all are.
        | '/' :: '/' :: rest => readAuthority base.scheme rest
        | _ => readAuthority base.scheme (text.dropWhile isAnySlash)
      else .ok (base.withPath [] rest)
    else .ok (base.withPath base.parentSegments text)

/-! ### Files -/

/-- A file of this machine, or of the given host, without a path. -/
def fileOn (host : List Char) : Url :=
  ⟨"file".toList, some ⟨[], host, none⟩, .segments [[]], none, none⟩

/-- The host of a URL, empty when it has none. -/
def hostText (url : Url) : List Char :=
  (url.authority.map Authority.host).getD []

/-- Gives a file the path that a text starts with. -/
def withFilePath (url : Url) (before : List (List Char)) (text : List Char) : Url :=
  let read := url.withPath before text
  { read with path := .segments (dropEmptySegments read.path.toList) }

/-- Reads a file behind the two slashes of its authority. A file on a drive has no host. -/
def readFileHost (text : List Char) : Except Fault Url := do
  let hostText := text.takeWhile (!endsAuthority true ·)
  let rest := text.dropWhile (!endsAuthority true ·)
  if isDrive hostText then return (fileOn []).withFilePath [] text
  if hostText.isEmpty then return (fileOn []).withFilePath [] rest
  let host ← Host.readSpecial hostText
  if host = "localhost".toList then return (fileOn []).withFilePath [] rest
  let rest := if (rest.head?.map (isSlash true)).getD false then rest.drop 1 else rest
  let onDrive := (((pathRules "file".toList).read [] [] rest).1.head?.map isNormalDrive).getD false
  return (fileOn (if onDrive then [] else host)).withFilePath [] rest

/-- Reads a file behind its scheme, seen from a base that is a file too, if there is one. -/
def readFile (base : Option Url) (text : List Char) : Except Fault Url :=
  match text with
  | c :: rest =>
    if isAnySlash c then
      if (rest.head?.map isAnySlash).getD false then readFileHost (rest.drop 1)
      else
        match base with
        | none => .ok ((fileOn []).withFilePath [] rest)
        | some base =>
          if startsWithDrive rest then .ok ((fileOn []).withFilePath [] rest)
          else
            match base.path.toList.head? with
            | some drive =>
              if isNormalDrive drive then .ok ((fileOn []).withFilePath [drive] rest)
              else .ok ((fileOn base.hostText).withFilePath [] rest)
            | none => .ok ((fileOn base.hostText).withFilePath [] rest)
    else
      match base with
      | none => .ok ((fileOn []).withFilePath [] text)
      | some base =>
        if c = '?' then .ok (base.withTail text)
        else if c = '#' then .ok (base.withFragment rest)
        else if startsWithDrive text then .ok ((fileOn []).withFilePath [] text)
        else
          let segments := base.path.toList
          let keepsLast := (segments.getLast?.map isNormalDrive).getD false
          .ok (base.withFilePath (if keepsLast then segments else segments.dropLast) text)
  | [] =>
    match base with
    | none => .ok (fileOn [])
    | some base => .ok { base with fragment := none }

/-! ### Whole texts -/

/-- Reads what follows the scheme of a URL that is not special. -/
def readPlain (scheme text : List Char) : Except Fault Url :=
  let url : Url := ⟨scheme, none, .segments [], none, none⟩
  match text with
  | '/' :: '/' :: rest => readAuthority scheme rest
  | '/' :: rest => .ok (url.withPath [] rest)
  | _ =>
    let path := percentEncode inOpaque (text.takeWhile (!endsPath ·))
    .ok (withTail { url with path := .opaquePath path } (text.dropWhile (!endsPath ·)))

/-- Reads what follows the scheme of a URL, seen from a base, if there is one. -/
def readScheme (base : Option Url) (scheme text : List Char) : Except Fault Url :=
  let sameBase := base.filter (·.scheme = scheme)
  if isFileScheme scheme then readFile sameBase text
  else if isSpecialScheme scheme then
    match sameBase with
    | some base =>
      if (text.takeWhile isAnySlash).length < 2 then readRelative base text
      else readAuthority scheme (text.dropWhile isAnySlash)
    -- Any number of slashes may stand before the host of a special URL.
    | none => readAuthority scheme (text.dropWhile isAnySlash)
  else readPlain scheme text

/-- Reads a text that has no scheme, seen from a base. -/
def readReference (base : Url) (text : List Char) : Except Fault Url :=
  match text with
  | '#' :: fragment => .ok (base.withFragment fragment)
  | _ =>
    if base.hasOpaquePath then .error .relativeToOpaque
    else if isFileScheme base.scheme then readFile (some base) text
    else readRelative base text

/-- Reads a text, seen from a base if there is one. -/
def readFrom (base : Option Url) (text : String) : Except Fault Url :=
  let text := significant text.toList
  match splitScheme? text, base with
  | some (scheme, rest), _ => readScheme base scheme rest
  | none, some base => readReference base text
  | none, none => .error .relativeWithoutBase

/-- Reads a text as a URL. -/
def read (text : String) : Except Fault Url := readFrom none text

/-- Reads a reference seen from a URL. -/
def join (base : Url) (reference : String) : Except Fault Url := readFrom (some base) reference

/-- The local path that a file's URL stands for, as bytes. Only a file of this machine has one. A
path that ends in a drive ends in a slash behind it. -/
def filePath? (url : Url) : Option (List UInt8) :=
  match url.path with
  | .opaquePath _ => none
  | .segments list =>
    if (url.hostText.isEmpty || url.hostText = "localhost".toList) && !list.isEmpty then
      let path := percentDecode (Text.Utf8.encode (Path.segments list).print)
      match path.reverse with
      | mark :: letter :: _ :: _ =>
        if (mark = 58 || mark = 124) && (Char.ofNat letter.toNat).isAlpha then some (path ++ [47])
        else some path
      | _ => some path
    else none

end Retrace.Url
