import Triptych.CommandLine.Run

/-!
# The program

Gives the command line access to files, to the standard input and to the settings in
the home directory, and writes what it answers.
-/

namespace Triptych.CommandLine

/-- The number of an error, which some actions give with its sign turned. -/
def errorNumber (code : UInt32) : UInt32 := if code < 0x80000000 then code else 0 - code

/-- Why an action failed. -/
def readErrorOf : IO.Error → ReadError
  | .noFileOrDirectory .. => .notFound
  | .permissionDenied .. => .permissionDenied
  | .inappropriateType _ code _ => if errorNumber code = 20 then .notDirectory else .isDirectory
  | .invalidArgument _ code details =>
      if errorNumber code = 36 then .nameTooLong else .other details
  | e => .other (toString e)

/-- Keep the error of an action. -/
def attempt (action : IO ByteArray) : IO (Except ReadError ByteArray) := do
  try
    return .ok (← action)
  catch e =>
    return .error (readErrorOf e)

/-- Read a stream to its end. -/
partial def readToEnd (stream : IO.FS.Stream) (bytes : ByteArray) : IO ByteArray := do
  let more ← stream.read 65536
  if more.isEmpty then return bytes else readToEnd stream (bytes ++ more)

/-- Read the settings in the home directory, if there are any. -/
def readSettings : IO (Option ByteArray) := do
  match ← IO.getEnv "HOME" with
  | none => return none
  | some home =>
      let path := if home.isEmpty then ".swarnam.toml" else home ++ "/.swarnam.toml"
      return (← attempt (IO.FS.readBinFile path)).toOption

/-- The files, the standard input and the settings of the one who runs the program. -/
def host : Host IO where
  settings := readSettings
  standardInput := do attempt (readToEnd (← IO.getStdin) .empty)
  file path := attempt (IO.FS.readBinFile path)

end Triptych.CommandLine

/-- Answer the command line. -/
def main (arguments : List String) : IO UInt32 := do
  let answer ← Triptych.CommandLine.run Triptych.CommandLine.host arguments
  (← IO.getStderr).putStr (String.ofList answer.messages)
  (← IO.getStdout).putStr (String.ofList answer.output)
  return answer.code.toUInt32
