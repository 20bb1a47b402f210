import Retrace.Json.Record
import Retrace.Settings.Layer

/-!
# Layers as records

How a layer is written as a JSON document. No other sections and fields are allowed, and each may be
missing or `null`.
-/

namespace Retrace

open Json (Shape)

/-- Reads the format of log lines: its name, or an object with nothing under it. -/
def LogFormat.reader : Json.Reader LogFormat
  | .openRecord :: .text (some name) :: .colon :: .null :: .closeRecord :: rest =>
    match ofName? name with
    | some format => .ok (format, ((((Rest.tail _ rest).behind _).behind _).behind _).behind _)
    | none => .error .mismatched
  | tokens => Json.Reader.filterMap ofName? .text tokens

namespace HttpLayer

/-- How the section is written as a record. -/
def shape : Shape HttpLayer where
  members := [
    .of "host" .optional (.optional .text) fun v l => { l with host := v },
    .of "port" .optional (.optional (.natural UInt16.size)) fun v l =>
      { l with port := v.map UInt16.ofNat }]
  closed := true

end HttpLayer

namespace LoggingLayer

/-- How the section is written as a record. -/
def shape : Shape LoggingLayer where
  members := [
    .of "level" .optional (.optional .text) fun v l => { l with level := v },
    .of "format" .optional (.optional LogFormat.reader) fun v l => { l with format := v }]
  closed := true

end LoggingLayer

namespace ResolverLayer

/-- How the section is written as a record. -/
def shape : Shape ResolverLayer where
  members := [
    .of "environment" .optional (.optional .text) fun v l => { l with environment := v },
    .of "working_root" .optional (.optional .text) fun v l => { l with workingRoot := v },
    .of "fetch_timeout_secs" .optional (.optional (.natural UInt64.size)) fun v l =>
      { l with fetchTimeout := v.map UInt64.ofNat },
    .of "max_concurrency" .optional (.optional (.natural UInt64.size)) fun v l =>
      { l with maxConcurrency := v.map UInt64.ofNat },
    .of "strip_path_patterns" .optional (.optional (.list .text)) fun v l =>
      { l with stripPatterns := v }]
  closed := true

/-- Reads the section. -/
def reader : Json.Reader ResolverLayer := shape.reader {}

end ResolverLayer

namespace Layer

/-- How a layer is written as a record. -/
def shape : Shape Layer where
  members := [
    .of "http" .optional (.optional (HttpLayer.shape.reader {})) fun v l => { l with http := v },
    .of "logging" .optional (.optional (LoggingLayer.shape.reader {})) fun v l =>
      { l with logging := v },
    .of "symbolicate" .optional (.optional ResolverLayer.reader) fun v l =>
      { l with resolver := v }]
  closed := true

/-- Reads a layer. -/
def reader : Json.Reader Layer := shape.reader empty

end Layer

end Retrace
