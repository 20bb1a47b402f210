import Retrace.Artifact.Fault

/-!
# Faults of settings

Why settings cannot be had, and what messages say of it.
-/

namespace Retrace

/-- Why the value of an environment variable is none of its kind. -/
inductive ValueFault where
  /-- The value is no number of the kind. -/
  | number (kind value : String)
  /-- The value, given in lower case, names no format of log lines. -/
  | logFormat (value : String)
  deriving Repr, DecidableEq

/-- What a message says of a fault. -/
def ValueFault.message : ValueFault → String
  | .number kind value => s!"invalid {kind} value '{value}'"
  | .logFormat value => s!"unknown log format '{value}', expected text or json"

/-- A rule that settings break. -/
inductive Violation where
  /-- At least one frame has to be resolved at a time. -/
  | concurrency
  /-- A page has to have at least a second. -/
  | timeout
  /-- Every pattern has to be an expression. -/
  | pattern (text : String)
  deriving Repr, DecidableEq

/-- What a message says of a violation. -/
def Violation.message : Violation → String
  | .concurrency => "CRASHMAP_MAX_CONCURRENCY must be at least 1"
  | .timeout => "CRASHMAP_FETCH_TIMEOUT_SECS must be at least 1"
  | .pattern text => s!"invalid strip path pattern '{text}'"

/-- Why settings cannot be had. -/
inductive SettingsFault where
  /-- The file cannot be read. -/
  | unreadable (path : String) (fault : FileFault)
  /-- The file is no document of settings. -/
  | malformed (path : String)
  /-- The value of an environment variable is none of its kind. -/
  | value (key : String) (fault : ValueFault)
  /-- The settings break a rule. -/
  | invalid (violation : Violation)
  deriving Repr, DecidableEq

/-- What a message says of a fault. -/
def SettingsFault.message : SettingsFault → String
  | .unreadable path fault => s!"failed to read config file {path}: {fault.message}"
  | .malformed path => s!"failed to parse config file {path}"
  | .value key fault => s!"invalid value for {key}: {fault.message}"
  | .invalid violation => s!"configuration validation failed: {violation.message}"

end Retrace
