-- The program: the arguments and the files of the system go in, what is printed
-- and the exit code come out.
import Verdict.CommandLine

open Verdict

/-- The number and the words of a system error. -/
def systemError : IO.Error → ReadError
  | .noFileOrDirectory _ code details => .system details code.toNat
  | .inappropriateType _ code details => .system details code.toNat
  | .permissionDenied _ code details => .system details code.toNat
  | .invalidArgument _ code details => .system details code.toNat
  | .otherError code details => .system details code.toNat
  | e => .system (toString e) 0

/-- The text of a file of the system. -/
def readFile (path : String) : IO (Except ReadError String) := do
  try
    return ReadError.textOfBytes (← IO.FS.readBinFile path)
  catch e =>
    return .error (systemError e)

def main (arguments : List String) : IO UInt32 := do
  let text ←
    match CommandLine.parse arguments with
    | .ok (.check path _) => readFile path
    | _ => pure (.error .notFound)
  let result := CommandLine.run (fun _ => text) arguments
  (← IO.getStdout).putStr result.out
  (← IO.getStderr).putStr result.err
  return result.code.toUInt32
