import Retrace.Settings.Basic

/-!
# Layers of settings

Settings come in layers, each of which sets some fields. A layer on top of another one wins field by
field: what it does not set shows through from below, and so does a whole section that it does not
have. What no layer sets has a default.
-/

namespace Retrace

/-- The settings of listening that a layer sets. -/
structure HttpLayer where
  /-- The name or the address of the host. -/
  host : Option String := none
  /-- The port. -/
  port : Option UInt16 := none
  deriving Repr, DecidableEq

/-- The settings of logging that a layer sets. -/
structure LoggingLayer where
  /-- The least level that is logged. -/
  level : Option String := none
  /-- How log lines are written. -/
  format : Option LogFormat := none
  deriving Repr, DecidableEq

/-- The settings of resolving that a layer sets. -/
structure ResolverLayer where
  /-- The environment. -/
  environment : Option String := none
  /-- The root directory. -/
  workingRoot : Option String := none
  /-- How long a page may take. -/
  fetchTimeout : Option UInt64 := none
  /-- How many frames may be resolved at the same time. -/
  maxConcurrency : Option UInt64 := none
  /-- The patterns that are removed; an empty list is set, too. -/
  stripPatterns : Option (List String) := none
  deriving Repr, DecidableEq

/-- The settings that a layer sets, by sections. -/
structure Layer where
  /-- The settings of listening. -/
  http : Option HttpLayer := none
  /-- The settings of logging. -/
  logging : Option LoggingLayer := none
  /-- The settings of resolving. -/
  resolver : Option ResolverLayer := none
  deriving Repr, DecidableEq

namespace HttpLayer

/-- The fields of `upper` where they are set, those of `lower` elsewhere. -/
def onto (upper lower : HttpLayer) : HttpLayer where
  host := upper.host.or lower.host
  port := upper.port.or lower.port

/-- The settings of a layer, with defaults for what it does not set. -/
def settings (layer : HttpLayer) : HttpSettings where
  host := layer.host.getD "127.0.0.1"
  port := layer.port.getD 4780

end HttpLayer

namespace LoggingLayer

/-- The fields of `upper` where they are set, those of `lower` elsewhere. -/
def onto (upper lower : LoggingLayer) : LoggingLayer where
  level := upper.level.or lower.level
  format := upper.format.or lower.format

/-- The settings of a layer, with defaults for what it does not set. -/
def settings (layer : LoggingLayer) : LoggingSettings where
  level := layer.level.getD "info"
  format := layer.format.getD .text

end LoggingLayer

namespace ResolverLayer

/-- The fields of `upper` where they are set, those of `lower` elsewhere. -/
def onto (upper lower : ResolverLayer) : ResolverLayer where
  environment := upper.environment.or lower.environment
  workingRoot := upper.workingRoot.or lower.workingRoot
  fetchTimeout := upper.fetchTimeout.or lower.fetchTimeout
  maxConcurrency := upper.maxConcurrency.or lower.maxConcurrency
  stripPatterns := upper.stripPatterns.or lower.stripPatterns

/-- The pattern that is removed by default: what stands before a first colon, when it ends as the
name of a route. -/
def defaultStripPattern : String := "^[^:]*route:"

/-- The settings of a layer, with defaults for what it does not set; `directory` is the directory in
which the program runs. -/
def settings (directory : String) (layer : ResolverLayer) : ResolverSettings where
  environment := layer.environment.getD developmentEnvironment
  workingRoot := layer.workingRoot.getD directory
  fetchTimeout := layer.fetchTimeout.getD 10
  maxConcurrency := layer.maxConcurrency.getD 8
  stripPatterns := layer.stripPatterns.getD [defaultStripPattern]

end ResolverLayer

namespace Layer

/-- The layer that sets nothing. -/
def empty : Layer := {}

/-- A section over another one, each of which may be absent. -/
def sectionOnto {α : Type} (onto : α → α → α) : Option α → Option α → Option α
  | none, lower => lower
  | some upper, none => some upper
  | some upper, some lower => some (onto upper lower)

/-- The fields of `upper` where they are set, those of `lower` elsewhere. -/
def onto (upper lower : Layer) : Layer where
  http := sectionOnto HttpLayer.onto upper.http lower.http
  logging := sectionOnto LoggingLayer.onto upper.logging lower.logging
  resolver := sectionOnto ResolverLayer.onto upper.resolver lower.resolver

/-- The settings of a layer, with defaults for what it does not set; `directory` is the directory in
which the program runs. -/
def settings (directory : String) (layer : Layer) : Settings where
  http := (layer.http.getD {}).settings
  logging := (layer.logging.getD {}).settings
  resolver := (layer.resolver.getD {}).settings directory

end Layer

end Retrace
