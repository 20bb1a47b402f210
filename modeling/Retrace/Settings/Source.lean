import Retrace.Settings.Document
import Retrace.Settings.Validation
import Retrace.Settings.Variables
import Retrace.Text.Utf8

/-!
# Sources of settings

Settings come from the defaults of the program, from a file and from the environment. The layers of
the sources are put on top of each other by precedence, and the first source that fails decides.
-/

namespace Retrace

/-- How sources take precedence over each other. -/
inductive Precedence where
  /-- What the program takes by itself. -/
  | defaults
  /-- A settings file. -/
  | file
  /-- The environment. -/
  | environment
  deriving Repr, DecidableEq

/-- The rank of a precedence; a greater one wins. -/
def Precedence.rank : Precedence → Nat
  | .defaults => 10
  | .file => 20
  | .environment => 50

/-- A source of settings. -/
structure SettingsSource where
  /-- How the source takes precedence. -/
  precedence : Precedence
  /-- The layer of the source, or why it has none. -/
  layer : Except SettingsFault Layer

namespace SettingsSource

/-- The defaults of the program, which leave every field to `Layer.settings`. -/
def defaults : SettingsSource := ⟨.defaults, .ok .empty⟩

/-- The environment. -/
def environment (environment : Environment) : SettingsSource := ⟨.environment, environment.layer⟩

/-- Is there no file at all where a file cannot be read? -/
def isAbsent : FileFault → Bool
  | .absent | .missing | .notDirectory | .nameTooLong | .endedPath => true
  | .isDirectory | .notText | .system _ => false

/-- The layer of a settings file, given what reading it yields. A file that is not there sets
nothing. -/
def fileLayer (path : String) : Except FileFault (List UInt8) → Except SettingsFault Layer
  -- A path that cannot lead to a file counts as one without a file.
  | .error fault => if isAbsent fault then .ok .empty else .error (.unreadable path fault)
  | .ok bytes =>
    match Text.Utf8.decode? bytes with
    | none => .error (.unreadable path .notText)
    | some document =>
      match Layer.ofToml? document with
      | none => .error (.malformed path)
      | some layer => .ok layer

/-- A settings file, given what reading it yields. -/
def file (path : String) (content : Except FileFault (List UInt8)) : SettingsSource :=
  ⟨.file, fileLayer path content⟩

/-- Puts the layer of a source on top of what the sources before it have set. -/
def onTop (below : Layer) (source : SettingsSource) : Except SettingsFault Layer :=
  source.layer.map (·.onto below)

/-- The sources from the least precedence on; sources of the same precedence stay in order. -/
def sorted (sources : List SettingsSource) : List SettingsSource :=
  sources.mergeSort fun a b => a.precedence.rank ≤ b.precedence.rank

/-- The settings of sources; `directory` is the directory in which the program runs. -/
def load (engine : Pattern.Engine) (directory : String) (sources : List SettingsSource) :
    Except SettingsFault Settings := do
  let layer ← (sorted sources).foldlM onTop Layer.empty
  layer.validated engine directory

end SettingsSource

/-- Where the settings file is when no other is named. -/
def systemSettingsFile : String := "/etc/crashmap/server.toml"

end Retrace
