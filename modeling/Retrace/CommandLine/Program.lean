import Retrace.Artifact.Loader
import Retrace.CommandLine.Arguments
import Retrace.Endpoint.Routes
import Retrace.Report
import Retrace.Settings.Source
import Retrace.Version

/-!
# The program

What the program does with its arguments and its environment, as a plan: it asks for the bytes of
files and pages, for the standard input, and to have requests answered. It ends with a status and
what it writes.
-/

namespace Retrace

/-- What the program asks of the world. -/
inductive Demand where
  /-- The bytes of a file or of a page of the web. -/
  | bytes (source : Source)
  /-- The standard input. -/
  | input
  /-- To answer requests at an address until told to stop. -/
  | serve (address : String) (endpoint : Endpoint)

/-- What is replied to a demand. -/
def Demand.Reply : Demand → Type
  | .bytes source => source.Reply
  | .input => Except FileFault (List UInt8)
  | .serve _ _ => Except String Unit

/-- A run of the program. -/
abbrev Program (α : Type) := Plan Demand Demand.Reply α

/-- How the program ends. -/
structure Outcome where
  /-- The status: zero for success, one for a failure, two for arguments that are none, and 101 where
  a number does not fit and nothing can be reported. -/
  status : UInt8
  /-- What is written to the standard output. -/
  output : String
  /-- What is written to the standard error. -/
  complaint : String
  deriving Repr, DecidableEq

namespace Outcome

/-- Success. -/
def success (output : String) : Outcome := ⟨0, output, ""⟩

/-- A failure for a reason. -/
def failure (reason : String) : Outcome := ⟨1, "", s!"Error: {reason}\n"⟩

end Outcome

/-- The environment variable that names the settings file. -/
def settingsFileVariable : String := "CRASHMAP_CONFIG"

namespace Program

/-- The explanation of the arguments, line by line. -/
def usageLines : List String := [
  s!"Usage: {commandName} [--config <CONFIG>] [COMMAND]",
  "",
  "Commands:",
  "  serve        Answer requests (default)",
  "  symbolicate  Report a trace with its source positions",
  "  version      Tell the version",
  "",
  "Options of symbolicate:",
  "      --input <INPUT>      The trace; the standard input when left out",
  "      --context <CONTEXT>  The lines shown around each position (default 3)"]

/-- The explanation of the arguments. -/
def usage : String := String.join (usageLines.map (· ++ "\n"))

/-- What is told of the version. -/
def versionReport : String := s!"{commandName} version: {version}\n"

/-- Ends without a command. -/
def divert : Diversion → Outcome
  | .help => .success usage
  | .version => .success s!"{commandName} {version}\n"
  | .misuse fault => ⟨2, "", s!"error: {fault.message}\n"⟩

/-- Asks for bytes. -/
def reading {α : Type} (plan : Reading α) : Program α :=
  Plan.perform (m := Program) (fun source => Plan.question (Demand.bytes source)) plan

/-- Asks for the settings. -/
def settings (environment : Environment) (directory : String) (file : Option String) :
    Program (Except SettingsFault Settings) :=
  let path := file.getD systemSettingsFile
  .ask (.bytes (.file path)) fun content =>
    .done (SettingsSource.load .standard directory
      [.defaults, .file path content, .environment environment])

/-- The text of the standard input. -/
def inputText : Program (Except FileFault String) :=
  .ask .input fun reply =>
    .done <|
      match (reply : Except FileFault (List UInt8)) with
      | .error fault => .error fault
      | .ok bytes =>
        match Text.Utf8.decode? bytes with
        | some text => .ok text
        | none => .error .notText

/-- Asks for the trace. -/
def traceText : Option String → Program (Except FileFault String)
  | some path => reading (fileText path)
  | none => inputText

/-- The outcome of a report. -/
def reported : Option String → Outcome
  | some report => .success report
  | none => ⟨101, "", "a number does not fit\n"⟩

/-- Reports a trace. -/
def symbolicate (settings : Settings) (input : Option String) (context : Nat) : Program Outcome :=
  (traceText input).bind fun trace =>
    match trace with
    | .error fault => .done (.failure fault.message)
    | .ok trace =>
      match settings.resolver.service? .standard with
      | none => .done (.failure "invalid strip path pattern")
      | some service =>
        (reading (service.trace trace).load).bind fun results =>
          .done (reported (results.bind (Report.render? context (Text.linesOf trace))))

/-- Answers requests. -/
def serve (settings : Settings) : Program Outcome :=
  match Endpoint.ofSettings? .standard settings.resolver with
  | none => .done (.failure "invalid strip path pattern")
  | some endpoint =>
    .ask (.serve settings.http.address endpoint) fun reply =>
      .done <|
        match (reply : Except String Unit) with
        | .ok () => .success ""
        | .error reason => .failure reason

/-- Does what the arguments ask for, with settings. -/
def command (settings : Settings) : Command → Program Outcome
  | .serve => serve settings
  | .symbolicate input context => symbolicate settings input context
  | .version => .done (.success versionReport)

/-- Does what an invocation asks for. Only the version is told without settings. -/
def invoke (environment : Environment) (directory : String) (invocation : Invocation) :
    Program Outcome :=
  match invocation.command with
  | .version => .done (.success versionReport)
  | asked =>
    (settings environment directory invocation.settingsFile).bind fun loaded =>
      match loaded with
      | .error fault => .done (.failure fault.message)
      | .ok settings => command settings asked

/-- Does what arguments ask for. -/
def run (environment : Environment) (directory : String) (arguments : List String) :
    Program Outcome :=
  match Invocation.read (environment settingsFileVariable) arguments with
  | .error diversion => .done (divert diversion)
  | .ok invocation => invoke environment directory invocation

end Program

end Retrace
