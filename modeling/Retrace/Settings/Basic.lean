/-!
# Settings

What the program can be told: where it listens, how it logs, and how it resolves frames.
-/

namespace Retrace

/-- How log lines are written. -/
inductive LogFormat where
  /-- For people. -/
  | text
  /-- For programs. -/
  | json
  deriving Repr, DecidableEq

/-- Where the server listens. -/
structure HttpSettings where
  /-- The name or the address of the host. -/
  host : String
  /-- The port. -/
  port : UInt16
  deriving Repr, DecidableEq

/-- How the program logs. -/
structure LoggingSettings where
  /-- The least level that is logged, as a filter. -/
  level : String
  /-- How log lines are written. -/
  format : LogFormat
  deriving Repr, DecidableEq

/-- How frames are resolved. -/
structure ResolverSettings where
  /-- The environment in which the server runs. -/
  environment : String
  /-- The root directory from which files are seen in answers. -/
  workingRoot : String
  /-- How long a page of the web may take, in seconds. -/
  fetchTimeout : UInt64
  /-- How many frames may be resolved at the same time. -/
  maxConcurrency : UInt64
  /-- The patterns whose first match is removed from the file of a frame, in order. -/
  stripPatterns : List String
  deriving Repr, DecidableEq

/-- All settings. -/
structure Settings where
  /-- Where the server listens. -/
  http : HttpSettings
  /-- How the program logs. -/
  logging : LoggingSettings
  /-- How frames are resolved. -/
  resolver : ResolverSettings
  deriving Repr, DecidableEq

/-- The name of a format. -/
def LogFormat.name : LogFormat → String
  | .text => "text"
  | .json => "json"

/-- The format that a name names. -/
def LogFormat.ofName? (name : String) : Option LogFormat :=
  [LogFormat.text, .json].find? (·.name = name)

/-- The environment in which the endpoints answer. -/
def developmentEnvironment : String := "development"

/-- Does the server run for development? -/
def ResolverSettings.isDevelopment (settings : ResolverSettings) : Bool :=
  settings.environment = developmentEnvironment

/-- The address at which the server listens. -/
def HttpSettings.address (settings : HttpSettings) : String :=
  s!"{settings.host}:{settings.port.toNat}"

end Retrace
