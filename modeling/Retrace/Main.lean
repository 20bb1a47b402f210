import Retrace.CommandLine.Program

/-!
# The command line

Runs the program: files and the standard input are read, the web and the serving of requests are out
of reach, which the program is told.
-/

namespace Retrace

/-- The reason why the system cannot read a file. -/
def FileFault.ofError (error : IO.Error) : FileFault :=
  let ofCode (code : UInt32) : FileFault :=
    if code = 2 then .missing
    else if code = 20 then .notDirectory
    else if code = 21 then .isDirectory
    else if code = 36 then .nameTooLong
    else .system (toString error)
  match error with
  | .noFileOrDirectory _ code _ => ofCode code
  | .inappropriateType _ code _ => ofCode code
  | .invalidArgument _ code _ => ofCode code
  | .unsupportedOperation code _ => ofCode code
  | .otherError code _ => ofCode code
  | _ => .system (toString error)

/-- Reads bytes, or tells why they cannot be read. -/
def readBytes (action : IO ByteArray) : IO (Except FileFault (List UInt8)) := do
  try return .ok (← action).toList
  catch error => return .error (.ofError error)

/-- Replies to a demand for the bytes of a file or of a page. -/
def replySource : (source : Source) → IO source.Reply
  | .file path =>
    if path.toList.contains '\x00' then
      pure (Except.error FileFault.endedPath : Except FileFault (List UInt8))
    else readBytes (IO.FS.readBinFile path)
  | .page _ => pure WebReply.unreachable

/-- Replies to a demand of the program. -/
def reply : (demand : Demand) → IO demand.Reply
  | .bytes source => replySource source
  | .input => do readBytes (← IO.getStdin).readBinToEnd
  | .serve address _ =>
    pure (Except.error s!"cannot listen at {address}" : Except String Unit)

/-- The environment variables that the program knows, as they are set. -/
def currentEnvironment : IO Environment := do
  let pairs ← (settingsFileVariable :: Environment.names).mapM fun name => do
    return (name, ← IO.getEnv name)
  return fun name => (pairs.lookup name).join

end Retrace

open Retrace in
/-- Runs the program with the arguments of the command line. -/
def main (arguments : List String) : IO UInt32 := do
  let environment ← currentEnvironment
  let directory ← IO.currentDir
  let outcome ← (Program.run environment directory.toString arguments).perform reply
  IO.print outcome.output
  IO.eprint outcome.complaint
  return outcome.status.toUInt32
