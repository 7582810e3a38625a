import EcmaModule.CommandLine.Command
import EcmaModule.Grammar.Standard

/-! The program: reads the file its arguments name, runs the command on it and writes
both streams. What the command does is `CommandLine.run`. -/
namespace EcmaModule.CommandLine

/-- Why the system refused to read a file. -/
def ReadFault.ofError : IO.Error → ReadFault
  | .inappropriateType .. => .directory
  | .permissionDenied .. => .denied
  | _ => .missing

/-- The bytes of a file. -/
def readBytes (name : Text) : IO (Except ReadFault Utf8.Bytes) := do
  let some path := name.toString? | return .error .missing
  try
    return .ok (← IO.FS.readBinFile path).toList
  catch e => return .error (.ofError e)

def write (stream : IO.FS.Stream) (t : Text) : IO Unit := do
  stream.write ⟨(Utf8.encode t).toArray⟩
  stream.flush

end EcmaModule.CommandLine

open EcmaModule CommandLine in
def main (args : List String) : IO UInt32 := do
  let args := args.map Text.ofString
  let setting := (← IO.getEnv "ECMAPARSE_SYNTAX").map Text.ofString
  let source ←
    match fileToRead? args setting with
    | some name => readBytes name
    | none => pure (.error .missing)
  let result := run Grammar.standard (fun _ => source) args setting
  write (← IO.getStdout) result.stdout
  write (← IO.getStderr) result.stderr
  return result.status.toUInt32
