import Retrace.Text.Decimal

/-!
# Arguments of the command line

The program takes options, then possibly a command, then the options of that command. An option has
a value, in the next argument or behind an equals sign, and is given once before the command and
once behind it at most. The option that names the settings file may stand in both places, and an
environment variable stands in for it.

Arguments are read from the left, and the first one that asks for help, for the version or for
something that is not there decides.
-/

namespace Retrace

/-- What the program is asked to do. -/
inductive Command where
  /-- To answer requests. -/
  | serve
  /-- To report a trace, from a file or from the standard input, with lines of context. -/
  | symbolicate (input : Option String) (context : Nat)
  /-- To tell its version. -/
  | version
  deriving Repr, DecidableEq

/-- What the arguments ask for. -/
structure Invocation where
  /-- The settings file, where one is named. -/
  settingsFile : Option String
  /-- The command. -/
  command : Command
  deriving Repr, DecidableEq

/-- What is wrong with arguments. -/
inductive ArgumentFault where
  /-- An argument is not expected. -/
  | unexpected (argument : String)
  /-- An option lacks its value. -/
  | lacking (name : String)
  /-- An option is given twice. -/
  | repeated (name : String)
  /-- The value of an option is none of its kind. -/
  | invalid (name value : String)
  deriving Repr, DecidableEq

/-- What a message says of a fault. -/
def ArgumentFault.message : ArgumentFault → String
  | .unexpected argument => s!"unexpected argument '{argument}' found"
  | .lacking name => s!"a value is required for '--{name}' but none was supplied"
  | .repeated name => s!"the argument '--{name}' cannot be used multiple times"
  | .invalid name value => s!"invalid value '{value}' for '--{name}'"

/-- What arguments ask for when they ask for no command. -/
inductive Diversion where
  /-- An explanation of the arguments. -/
  | help
  /-- The version, by an option. -/
  | version
  /-- Something that is not there. -/
  | misuse (fault : ArgumentFault)
  deriving Repr, DecidableEq

/-- The values of options that have been given, by their names. -/
abbrev GivenOptions := List (String × String)

/-- The options that may stand before a command, or behind one. -/
structure OptionLevel where
  /-- The names of the options. -/
  names : List String
  /-- May a command follow, and may the version be asked for? -/
  isTop : Bool

namespace OptionLevel

/-- The options before a command. -/
def top : OptionLevel := ⟨["config"], true⟩

/-- The options behind a command that has none of its own. -/
def plain : OptionLevel := ⟨["config"], false⟩

/-- The options behind the command that reports a trace. -/
def report : OptionLevel := ⟨["config", "input", "context"], false⟩

/-- The bound of a number of lines. -/
def contextBound : Nat := UInt64.size

/-- Is the value one of the option's kind? The number of lines of context is a number, all other
options are paths, which are not empty. -/
def isValid (name value : String) : Bool :=
  if name = "context" then (Decimal.signed? contextBound value.toList).isSome else !value.isEmpty

/-- Adds the value of an option. -/
def give (given : GivenOptions) (name value : String) : Except Diversion GivenOptions :=
  if (given.lookup name).isSome then .error (.misuse (.repeated name))
  else if isValid name value then .ok ((name, value) :: given)
  else .error (.misuse (.invalid name value))

/-- Does an argument stand for options, so that it is no value? -/
def isOption (argument : String) : Bool :=
  "-".toList.isPrefixOf argument.toList && argument ≠ "-"

/-- An option without its dashes: its name, and the value behind an equals sign. -/
def splitValue (text : List Char) : String × Option String :=
  (String.ofList (text.takeWhile (· ≠ '=')),
    (text.dropWhile (· ≠ '=')).tail?.map String.ofList)

/-- What an option without a value asks for. -/
def diversion? (level : OptionLevel) (name : String) : Option Diversion :=
  if name = "help" then some .help
  else if name = "version" ∧ level.isTop then some .version
  else none

/-- The name of an option that is given by a letter. -/
def nameOf? : Char → Option String
  | 'h' => some "help"
  | 'V' => some "version"
  | _ => none

/-- Reads options from one on. Returns those that are given and the arguments from the command
on. -/
def read (level : OptionLevel) (given : GivenOptions) :
    List String → Except Diversion (GivenOptions × List String)
  | [] => .ok (given, [])
  | ["--"] => .ok (given, [])
  -- Nothing behind two dashes is an option, and no other arguments are expected.
  | "--" :: argument :: _ => .error (.misuse (.unexpected argument))
  | argument :: rest =>
    match argument.toList with
    | '-' :: '-' :: text =>
      match splitValue text, rest with
      | (name, some value), rest =>
        if level.names.contains name then
          match give given name value with
          | .error diversion => .error diversion
          | .ok given => level.read given rest
        else .error (.misuse (.unexpected argument))
      | (name, none), rest =>
        if level.names.contains name then
          match rest with
          | [] => .error (.misuse (.lacking name))
          | value :: rest =>
            if isOption value then .error (.misuse (.lacking name))
            else
              match give given name value with
              | .error diversion => .error diversion
              | .ok given => level.read given rest
        else .error ((level.diversion? name).getD (.misuse (.unexpected argument)))
    | '-' :: letter :: _ =>
      .error (((nameOf? letter).bind level.diversion?).getD (.misuse (.unexpected argument)))
    | _ =>
      if level.isTop then .ok (given, argument :: rest)
      else .error (.misuse (.unexpected argument))

end OptionLevel

namespace Invocation

/-- How many lines of context are shown when nothing else is asked for. -/
def defaultContext : Nat := 3

/-- The command that reports a trace with the options behind it. -/
def symbolicate (given : GivenOptions) : Command :=
  let context := (given.lookup "context").bind fun value =>
    Decimal.signed? OptionLevel.contextBound value.toList
  .symbolicate (given.lookup "input") (context.getD defaultContext)

/-- The settings file, given the options of each place in which it could be named, the last place
first. The environment variable stands in for it in each place, and must not be empty there. -/
def settingsFileOf (inherited : Option String) (places : List GivenOptions) :
    Except Diversion (Option String) :=
  let named := places.map (·.lookup "config")
  if inherited = some "" ∧ named.contains none then .error (.misuse (.invalid "config" ""))
  else .ok ((named.findSome? id).or inherited)

/-- The invocation of a command, given the options before and behind it. -/
def ofOptions (inherited : Option String) (before behind : GivenOptions) (command : Command) :
    Except Diversion Invocation := do
  return ⟨← settingsFileOf inherited [behind, before], command⟩

/-- What the command that explains others asks for. -/
def explained : List String → Diversion
  | [] => .help
  | [name] =>
    if ["serve", "symbolicate", "version", "help"].contains name then .help
    else .misuse (.unexpected name)
  | _ :: argument :: _ => .misuse (.unexpected argument)

/-- Reads the arguments of the program; `inherited` is the value of the environment variable that
names the settings file. -/
def read (inherited : Option String) (arguments : List String) : Except Diversion Invocation := do
  let (before, rest) ← OptionLevel.top.read [] arguments
  match rest with
  | [] => return ⟨← settingsFileOf inherited [before], .serve⟩
  | "serve" :: rest =>
    let (behind, _) ← OptionLevel.plain.read [] rest
    ofOptions inherited before behind .serve
  | "symbolicate" :: rest =>
    let (behind, _) ← OptionLevel.report.read [] rest
    ofOptions inherited before behind (symbolicate behind)
  | "version" :: rest =>
    let (behind, _) ← OptionLevel.plain.read [] rest
    ofOptions inherited before behind .version
  | "help" :: rest => throw (explained rest)
  | argument :: _ => throw (.misuse (.unexpected argument))

end Invocation

end Retrace
