import Drafting.CivilTime
import Drafting.CommandLine.Execution
import Std.Time.DateTime.Timestamp

/-!
# The program

The host of the command line: standard streams, files, the clock and random
identifiers. There is no connection to image services here, so a download always
fails with a reason.
-/

namespace Drafting.Program

/-- The characters of a random stem. -/
def stemAlphabet : List Char :=
  "abcdefghijklmnopqrstuvwxyzABCDEFGHIJKLMNOPQRSTUVWXYZ0123456789".toList

/-- How many characters a random stem has. -/
def stemLength : Nat := 20

/-- A stem of random characters. -/
def randomStem : IO String := do
  let characters ← (List.replicate stemLength ()).mapM fun _ => do
    return stemAlphabet.getD (← IO.rand 0 (stemAlphabet.length - 1)) 'a'
  return String.ofList characters

/-- The present moment as it stands in documents. -/
def presentMoment : IO String := do
  let thousandths := (← Std.Time.Timestamp.now).toMillisecondsSinceUnixEpoch.val
  return (CivilTime.ofSeconds (thousandths / 1000)).stampText (thousandths % 1000).toNat

/-- The lines of a stream from the next one on. -/
partial def readAll (stream : IO.FS.Stream) (read : String) : IO String := do
  let line ← stream.getLine
  if line.isEmpty then return read else readAll stream (read ++ line)

/-- The problem that an error with a file is. -/
def problemOf : IO.Error → FileProblem
  | .noFileOrDirectory .. => .missing
  | .inappropriateType .. => .isDirectory
  | .invalidArgument .. => .notName
  | _ => .notDirectory

/-- The content of a file, or why it cannot be read. -/
def content (path : String) : IO (Except FileProblem String) := do
  try return .ok (← IO.FS.readFile path) catch error => return .error (problemOf error)

/-- Writes a file, and tells the problem if that was not possible. -/
def save (path content : String) : IO (Option FileProblem) := do
  try
    IO.FS.writeFile path content
    return none
  catch error => return some (problemOf error)

/-- The surroundings of the program, whose standard output may be a terminal. -/
def host (isTerminal : Bool) : CommandLine.Host IO where
  isTerminal
  input := do readAll (← IO.getStdin) ""
  file := content
  stamp := return ⟨← randomStem, ← presentMoment⟩
  fetch := fun _ _ => return .unreachable "no connection"
  print := IO.print
  save := save

/-- What is said about an error that is not reported by a command. -/
def crashMessage : CommandLine.Crash → String
  | .configuration problem => problem.message
  | .unknownWord unknown => unknown.message
  | .drawing .coordinateOutOfRange => "a coordinate is too large"
  | .file path problem => problem.message path

/-- How the program is used. -/
def usage : String :=
  "Usage: convert | classify | imgurl [OPTIONS] [SOURCE]\n" ++
  "  all: --config FILE, --debug\n" ++
  "  convert: --version, --output FILE, --compressed, --no-compressed\n" ++
  "  imgurl: --mermaid, --theme NAME, --format NAME, --download FILE"

/-- Tells how a command ended and gives the status of the program. -/
def finish : CommandLine.Ending → IO UInt32
  | .success => return 0
  | .reported message => do
    IO.eprint (CommandLine.reportLine (← (← IO.getStderr).isTty) message)
    return 1
  | .crashed crash => do
    IO.eprintln (crashMessage crash)
    return 1
  | .misuse => do
    IO.eprintln usage
    return 2

end Drafting.Program

/-- Runs the program with its arguments. -/
def main (arguments : List String) : IO UInt32 := do
  let host := Drafting.Program.host (← (← IO.getStdout).isTty)
  Drafting.Program.finish (← Drafting.CommandLine.run host arguments)
