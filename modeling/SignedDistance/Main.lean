import SignedDistance.CommandLine.Run
import SignedDistance.Tensor.Bytes

/-!
# The program

The command line with the files, the environment and the streams of the system.
-/

namespace SignedDistance.CommandLine

/-- The fault of an error, if it is one of the system. -/
def faultOf? : IO.Error → Option SystemFault
  | .alreadyExists _ number description
  | .otherError number description
  | .resourceBusy number description
  | .resourceVanished number description
  | .unsupportedOperation number description
  | .hardwareFault number description
  | .unsatisfiedConstraints number description
  | .illegalOperation number description
  | .protocolError number description
  | .timeExpired number description
  | .interrupted _ number description
  | .noFileOrDirectory _ number description
  | .invalidArgument _ number description
  | .permissionDenied _ number description
  | .resourceExhausted _ number description
  | .inappropriateType _ number description
  | .noSuchThing _ number description => some ⟨number.toNat, description⟩
  | .unexpectedEof => none
  | .userError _ => none

/-- An action, on a path if there is one, with its system errors as file errors. -/
def guarded {α : Type} (path : Option String) (action : IO α) : IO (Except FileError α) := do
  if path.any (·.contains '\x00') then return .error .nullCharacter
  try
    return .ok (← action)
  catch e =>
    match faultOf? e with
    | some fault => return .error (.system fault path)
    | none => throw e

/-- The text that bytes encode. -/
def textOf (bytes : ByteArray) : Except FileError String :=
  match String.fromUTF8? bytes with
  | some text => .ok text
  | none => .error .notText

/-- The file system of the system. -/
def systemFiles : FileSystem IO where
  readText path := do return (← guarded path (IO.FS.readBinFile path)) >>= textOf
  readInput := do return (← guarded none (do (← IO.getStdin).readBinToEnd)) >>= textOf
  createDirectories path := guarded path (IO.FS.createDirAll path)
  writeArray path array := guarded path (IO.FS.writeBinFile path array.toBytes)

/-- The values of the environment variables that settings are taken from. -/
def environment : IO (List (String × String)) :=
  Settings.variableNames.filterMapM fun name => do
    return (← IO.getEnv name).map fun value => (name, value)

/-- Runs the program and prints what it has to say. -/
def runMain (args : List String) : IO UInt32 := do
  let env ← environment
  match Settings.ofEnvironment? (fun name => env.lookup name) with
  | none =>
    IO.eprintln "error: an environment variable is not a number"
    return 1
  | some settings =>
    match ← run systemFiles settings args with
    | .exit code output errors =>
      IO.eprint errors
      IO.print output
      return UInt32.ofNat code
    | .misuse message =>
      IO.eprint (mainUsage ++ "scene2glsl: error: " ++ message ++ "\n")
      return 2
    | .failure reason =>
      IO.eprintln reason.message
      return 1

end SignedDistance.CommandLine

/-- The entry point. -/
def main (args : List String) : IO UInt32 :=
  SignedDistance.CommandLine.runMain args
