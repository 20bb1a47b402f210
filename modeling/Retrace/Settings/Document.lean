import Retrace.Settings.Layer
import Retrace.Toml.Read
import Retrace.Toml.Record

/-!
# Layers as TOML documents

How a layer is written in a settings file. No other sections and fields are allowed, and each may be
missing.
-/

namespace Retrace

open Toml (RecordField)

/-- Reads the format of log lines: its name, or a table or a list that holds nothing under it. -/
def LogFormat.ofToml? (value : Toml.Value) : Option LogFormat := do
  let name ←
    match value with
    | .text name => some name
    | .table _ [(name, inner)] => if inner.isHollow then some name else none
    | _ => none
  ofName? name

namespace HttpLayer

/-- The fields of the section in a settings file. -/
def fields : List (RecordField HttpLayer) := [
  .of "host" Toml.Value.text? fun v l => { l with host := some v },
  .of "port" (Toml.Value.natural? UInt16.size) fun v l => { l with port := some (.ofNat v) }]

end HttpLayer

namespace LoggingLayer

/-- The fields of the section in a settings file. -/
def fields : List (RecordField LoggingLayer) := [
  .of "level" Toml.Value.text? fun v l => { l with level := some v },
  .of "format" LogFormat.ofToml? fun v l => { l with format := some v }]

end LoggingLayer

namespace ResolverLayer

/-- The fields of the section in a settings file. -/
def fields : List (RecordField ResolverLayer) := [
  .of "environment" Toml.Value.text? fun v l => { l with environment := some v },
  .of "working_root" Toml.Value.text? fun v l => { l with workingRoot := some v },
  .of "fetch_timeout_secs" (Toml.Value.natural? UInt64.size) fun v l =>
    { l with fetchTimeout := some (.ofNat v) },
  .of "max_concurrency" (Toml.Value.natural? UInt64.size) fun v l =>
    { l with maxConcurrency := some (.ofNat v) },
  .of "strip_path_patterns" (Toml.Value.list? Toml.Value.text?) fun v l =>
    { l with stripPatterns := some v }]

end ResolverLayer

namespace Layer

/-- The sections of a settings file. -/
def fields : List (RecordField Layer) := [
  .of "http" (Toml.Value.record? HttpLayer.fields {}) fun v l => { l with http := some v },
  .of "logging" (Toml.Value.record? LoggingLayer.fields {}) fun v l => { l with logging := some v },
  .of "symbolicate" (Toml.Value.record? ResolverLayer.fields {}) fun v l =>
    { l with resolver := some v }]

/-- Reads a settings file. -/
def ofToml? (document : String) : Option Layer := do
  let root ← Toml.read document
  Toml.Value.record? fields empty (.table .stated root)

end Layer

end Retrace
