import Retrace.Url.Percent

/-!
# URLs

A URL by its parts, each in its written form. A hierarchical path is a list of segments, each of
which a slash precedes; an opaque path is a text of its own.
-/

namespace Retrace

namespace Url

/-- What stands between the two slashes and the path. -/
structure Authority where
  /-- The name of the user and the password, with a colon between them; empty when neither is
  given. -/
  userinfo : List Char
  /-- The host; empty for a file of this machine. -/
  host : List Char
  /-- The port, when it is not the scheme's own. -/
  port : Option Nat
  deriving Repr, DecidableEq

/-- The path of a URL. -/
inductive Path where
  /-- A text that no reference is relative to. -/
  | opaquePath (text : List Char)
  /-- Segments, each behind a slash. -/
  | segments (list : List (List Char))
  deriving Repr, DecidableEq

end Url

/-- A URL. -/
structure Url where
  /-- The scheme, in lower case. -/
  scheme : List Char
  /-- The authority, when two slashes follow the scheme. -/
  authority : Option Url.Authority
  /-- The path. -/
  path : Url.Path
  /-- The query. -/
  query : Option (List Char)
  /-- The fragment. -/
  fragment : Option (List Char)
  deriving Repr, DecidableEq

namespace Url

/-- The special schemes but that of files, each with its own port. -/
def networkPorts : List (String × Nat) :=
  [("http", 80), ("https", 443), ("ws", 80), ("wss", 443), ("ftp", 21)]

/-- The port of a scheme. -/
def defaultPort? (scheme : List Char) : Option Nat :=
  networkPorts.lookup (String.ofList scheme)

/-- Is the scheme that of files? -/
def isFileScheme (scheme : List Char) : Bool := scheme = "file".toList

/-- Is the scheme special: does it have an authority and take backslashes for slashes? -/
def isSpecialScheme (scheme : List Char) : Bool :=
  isFileScheme scheme || (defaultPort? scheme).isSome

/-- Is the path opaque? -/
def hasOpaquePath (url : Url) : Bool :=
  match url.path with
  | .opaquePath _ => true
  | .segments _ => false

/-- The segments of a hierarchical path. -/
def Path.toList : Path → List (List Char)
  | .opaquePath _ => []
  | .segments list => list

/-- The text of a path. -/
def Path.print : Path → List Char
  | .opaquePath text => text
  | .segments list => list.flatMap ('/' :: ·)

/-- The text of an authority, with the slashes before it. -/
def Authority.print (a : Authority) : List Char :=
  "//".toList ++ (if a.userinfo.isEmpty then [] else a.userinfo ++ ['@']) ++ a.host ++
    match a.port with
    | some port => ':' :: Nat.toDigits 10 port
    | none => []

/-- A dot that keeps two slashes at the front of a path from looking like an authority. -/
def pathGuard (url : Url) : List Char :=
  match url.authority, url.path with
  | none, .segments ([] :: _ :: _) => "/.".toList
  | _, _ => []

/-- The text of a URL without its fragment. -/
def printPage (url : Url) : List Char :=
  url.scheme ++ ':' :: (url.authority.map Authority.print).getD [] ++ url.pathGuard ++
    url.path.print ++ (url.query.map ('?' :: ·)).getD []

/-- The text of a URL. -/
def print (url : Url) : List Char :=
  url.printPage ++ (url.fragment.map ('#' :: ·)).getD []

/-- The text of a URL. -/
def toText (url : Url) : String := String.ofList url.print

/-- A URL without the name of a user and a password. -/
def withoutUser (url : Url) : Url :=
  { url with authority := url.authority.map fun a => { a with userinfo := [] } }

end Url

end Retrace
