import Retrace.Url.Fault

/-!
# Faults of fetching

Why the text at a location cannot be had, and what messages say of it.
-/

namespace Retrace

/-- Why a file cannot be read. -/
inductive FileFault where
  /-- A store in memory has nothing under the name. -/
  | absent
  /-- There is no such file. -/
  | missing
  /-- The file is a directory. -/
  | isDirectory
  /-- Something that is no directory is used as one. -/
  | notDirectory
  /-- A name is too long. -/
  | nameTooLong
  /-- The path contains a character that ends paths. -/
  | endedPath
  /-- The content is not UTF-8. -/
  | notText
  /-- Any other reason that the system gives. -/
  | system (reason : String)
  deriving Repr, DecidableEq

/-- What a message says of a fault. -/
def FileFault.message : FileFault → String
  | .absent => "entity not found"
  | .missing => "No such file or directory (os error 2)"
  | .isDirectory => "Is a directory (os error 21)"
  | .notDirectory => "Not a directory (os error 20)"
  | .nameTooLong => "File name too long (os error 36)"
  | .endedPath => "file name contained an unexpected NUL byte"
  | .notText => "stream did not contain valid UTF-8"
  | .system reason => reason

/-- The statuses of the web that stand for a failure, with their names. -/
def failureNames : List (Nat × String) :=
  [(400, "Bad Request"), (401, "Unauthorized"), (402, "Payment Required"), (403, "Forbidden"),
    (404, "Not Found"), (405, "Method Not Allowed"), (406, "Not Acceptable"),
    (407, "Proxy Authentication Required"), (408, "Request Timeout"), (409, "Conflict"),
    (410, "Gone"), (411, "Length Required"), (412, "Precondition Failed"),
    (413, "Payload Too Large"), (414, "URI Too Long"), (415, "Unsupported Media Type"),
    (416, "Range Not Satisfiable"), (417, "Expectation Failed"), (418, "I'm a teapot"),
    (421, "Misdirected Request"), (422, "Unprocessable Entity"), (423, "Locked"),
    (424, "Failed Dependency"), (425, "Too Early"), (426, "Upgrade Required"),
    (428, "Precondition Required"), (429, "Too Many Requests"),
    (431, "Request Header Fields Too Large"), (451, "Unavailable For Legal Reasons"),
    (500, "Internal Server Error"), (501, "Not Implemented"), (502, "Bad Gateway"),
    (503, "Service Unavailable"), (504, "Gateway Timeout"),
    (505, "HTTP Version Not Supported"), (506, "Variant Also Negotiates"),
    (507, "Insufficient Storage"), (508, "Loop Detected"), (510, "Not Extended"),
    (511, "Network Authentication Required")]

/-- Why a page of the web cannot be had. -/
inductive WebFault where
  /-- The request cannot be sent. -/
  | unreachable
  /-- The answer's status is a failure. -/
  | status (code : Nat)
  deriving Repr, DecidableEq

/-- What a message says of a fault of the page at a URL. -/
def WebFault.message (page : String) : WebFault → String
  | .unreachable => s!"error sending request for url ({page})"
  | .status code =>
    let side := if code < 500 then "client" else "server"
    let name := (failureNames.lookup code).getD "<unknown status code>"
    s!"HTTP status {side} error ({code} {name}) for url ({page})"

/-- Why the text at a location cannot be had. -/
inductive FetchFault where
  /-- The file cannot be read. -/
  | file (fault : FileFault)
  /-- The page cannot be had. -/
  | web (page : String) (fault : WebFault)
  /-- The location is no URL. -/
  | url (fault : Url.Fault)
  /-- The location is the URL of a file that is not on this machine. -/
  | notLocal (location : String)
  deriving Repr, DecidableEq

/-- What a message says of a fault. -/
def FetchFault.message : FetchFault → String
  | .file fault => s!"IO error: {fault.message}"
  | .web page fault => s!"HTTP request failed: {fault.message page}"
  | .url fault => s!"invalid URL: {fault.message}"
  | .notLocal location => s!"not a local file URL: {location}"

end Retrace
