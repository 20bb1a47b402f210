import Retrace.Settings.Fault
import Retrace.Settings.Layer
import Retrace.Text.Decimal
import Retrace.Text.Lines

/-!
# Settings from the environment

Each setting has an environment variable. A variable that is empty counts as one that is not set.
Numbers may have blanks around them and a plus sign; a list has commas between its elements, and its
empty elements do not count.

The layer of the environment has all sections, whatever is set.
-/

namespace Retrace

/-- The values of the environment variables that are set, by their names. -/
abbrev Environment := String → Option String

namespace Environment

/-- The names of the variables that are read. -/
def names : List String := [
  "CRASHMAP_HOST", "CRASHMAP_PORT", "CRASHMAP_LOG_LEVEL", "CRASHMAP_LOG_FORMAT", "CRASHMAP_ENV",
  "CRASHMAP_WORKING_ROOT", "CRASHMAP_FETCH_TIMEOUT_SECS", "CRASHMAP_MAX_CONCURRENCY",
  "CRASHMAP_STRIP_PATH_PATTERNS"]

/-- The value of a variable that is set and not empty. -/
def get? (environment : Environment) (key : String) : Option String :=
  (environment key).filter (!·.isEmpty)

/-- Reads a variable that is a number below `bound`; `kind` is what messages call such a number. -/
def number? (environment : Environment) (key kind : String) (bound : Nat) :
    Except SettingsFault (Option Nat) :=
  match environment.get? key with
  | none => .ok none
  | some value =>
    match Decimal.signed? bound (Text.trim value.toList) with
    | some number => .ok (some number)
    | none => .error (.value key (.number kind value))

/-- The elements of a list with commas between them. -/
def elementsOf (value : String) : List String :=
  ((value.toList.splitOn ',').map Text.trim).filterMap fun element =>
    if element.isEmpty then none else some (String.ofList element)

end Environment

/-- The format of log lines that a text names, in any case. -/
def LogFormat.read (text : String) : Except ValueFault LogFormat :=
  let lower := text.map Char.toLower
  if lower = "text" ∨ lower = "pretty" then .ok .text
  else if lower = "json" then .ok .json
  else .error (.logFormat lower)

namespace Environment

/-- Reads the settings of listening. -/
def http (environment : Environment) : Except SettingsFault HttpLayer := do
  let port ← environment.number? "CRASHMAP_PORT" "u16" UInt16.size
  return { host := environment.get? "CRASHMAP_HOST", port := port.map UInt16.ofNat }

/-- Reads the settings of logging. -/
def logging (environment : Environment) : Except SettingsFault LoggingLayer := do
  let key := "CRASHMAP_LOG_FORMAT"
  let format ←
    match environment.get? key with
    | none => pure none
    | some value => ((LogFormat.read value).mapError (.value key)).map some
  return { level := environment.get? "CRASHMAP_LOG_LEVEL", format }

/-- Reads the settings of resolving. -/
def resolver (environment : Environment) : Except SettingsFault ResolverLayer := do
  let timeout ← environment.number? "CRASHMAP_FETCH_TIMEOUT_SECS" "u64" UInt64.size
  let concurrency ← environment.number? "CRASHMAP_MAX_CONCURRENCY" "usize" UInt64.size
  return {
    environment := environment.get? "CRASHMAP_ENV"
    workingRoot := environment.get? "CRASHMAP_WORKING_ROOT"
    fetchTimeout := timeout.map UInt64.ofNat
    maxConcurrency := concurrency.map UInt64.ofNat
    stripPatterns := (environment.get? "CRASHMAP_STRIP_PATH_PATTERNS").map elementsOf }

/-- Reads the layer of the environment. -/
def layer (environment : Environment) : Except SettingsFault Layer := do
  let http ← environment.http
  let logging ← environment.logging
  let resolver ← environment.resolver
  return { http := some http, logging := some logging, resolver := some resolver }

end Environment

end Retrace
