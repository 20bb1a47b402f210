import Retrace.Cleanup
import Retrace.Settings.Fault
import Retrace.Settings.Layer
import Retrace.Symbolication.Service

/-!
# Validation of settings

The rules that settings have to keep, and the service that they describe. The rules are checked in
the order of concurrency, timeout and patterns from the first on.
-/

namespace Retrace

namespace ResolverSettings

/-- The first rule that settings break. -/
def violation? (settings : ResolverSettings) (engine : Pattern.Engine) : Option Violation :=
  if settings.maxConcurrency = 0 then some .concurrency
  else if settings.fetchTimeout = 0 then some .timeout
  else (settings.stripPatterns.find? fun p => (engine.compile? p).isNone).map .pattern

/-- The service that settings describe, when every pattern can be compiled. -/
def service? (settings : ResolverSettings) (engine : Pattern.Engine) : Option Service :=
  (Cleanup.ofPatterns? engine settings.stripPatterns).map fun cleanup =>
    { cleanup, concurrency := max settings.maxConcurrency.toNat 1 }

end ResolverSettings

/-- The settings of a layer, when they keep the rules; `directory` is the directory in which the
program runs. -/
def Layer.validated (engine : Pattern.Engine) (directory : String) (layer : Layer) :
    Except SettingsFault Settings :=
  let settings := layer.settings directory
  match settings.resolver.violation? engine with
  | some violation => .error (.invalid violation)
  | none => .ok settings

end Retrace
