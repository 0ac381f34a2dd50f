import Drafting.CommandLine.Invocation
import Drafting.Configuration.File
import Drafting.Conversion
import Drafting.ImageService
import Drafting.Terminal

/-!
# Executing commands

A command reads its source and its configuration, computes, and prints or writes
the result. All that it needs from outside is in a host, so that what a command
does can be followed without one.

Errors of which the user is to blame are reported in words. Others end the
program, and nothing more is printed.
-/

namespace Drafting.CommandLine

/-- What a command needs from outside: the standard input, the content of files,
a stamp for documents, the answers of image services, a place to print, which may be
a terminal, and files to write, with the problem if there was one. -/
structure Host (m : Type → Type) where
  isTerminal : Bool
  input : m String
  file : String → m (Except FileProblem String)
  stamp : m Stamp
  fetch : String → Int → m ImageService.Response
  print : String → m Unit
  save : String → String → m (Option FileProblem)

/-- An error that is not reported in words. -/
inductive Crash where
  | configuration (problem : Yaml.Problem)
  | unknownWord (unknown : UnknownWord)
  | drawing (error : DrawingError)
  | file (path : String) (problem : FileProblem)
  deriving DecidableEq, Repr

/-- How a command ends. -/
inductive Ending where
  | success
  | reported (message : String)
  | crashed (crash : Crash)
  | misuse
  deriving DecidableEq, Repr

/-- The line in which an error is reported. -/
def reportLine (isTerminal : Bool) (message : String) : String :=
  Terminal.shown isTerminal ("Error: " ++ message ++ "\n")

/-- The version of the program. -/
def version : String := "0.3.0"

/-- A text that is given and not empty. -/
def givenText (text : Option String) : Option String := text.filter fun text => !text.isEmpty

section

variable {m : Type → Type} [Monad m] (host : Host m)

/-- Prints a text and ends its line. -/
def printLine (text : String) : m Unit :=
  host.print (Terminal.shown host.isTerminal (text ++ "\n"))

/-- Writes the result of a command to a file and tells so. -/
def saveResult (what path content : String) : m Ending := do
  match ← host.save path content with
  | some problem => return .crashed (.file path problem)
  | none =>
    printLine host (what ++ " written to " ++ path)
    return .success

/-- How a command ends whose configuration cannot be loaded from the file of a
path. A file that is no YAML document and a character code that is no number of
thirty-two bits are not reported. -/
def endingOf (path : String) (error : Configuration.LoadError) : Ending :=
  match error with
  | .yaml .malformed => .crashed (.configuration .malformed)
  | .yaml .codeTooLarge => .crashed (.configuration .codeTooLarge)
  | error => .reported ("Cannot load configuration " ++ path ++ ": " ++ error.message path)

/-- The configuration that is asked for, or the ending that comes from it. -/
def loadConfiguration (path : Option String) : m (Except Ending Configuration) := do
  match givenText path with
  | none => return .ok {}
  | some path =>
    match Configuration.ofFile path (← host.file (FilePath.normal path)) with
    | .ok configuration => return .ok configuration
    | .error error => return .error (endingOf path error)

/-- Converts a source and prints or writes the document. -/
def convert (invocation : Invocation) (configuration : Configuration) (source : String) :
    m Ending := do
  let compressed := invocation.compressed.getD configuration.compressed
  match Conversion.ofText (← host.stamp) configuration (some compressed) source with
  | .error .emptySource => return .reported ConversionError.emptySourceMessage
  | .error (.unknownWord unknown) => return .crashed (.unknownWord unknown)
  | .error (.drawing error) => return .crashed (.drawing error)
  | .ok document =>
    match givenText invocation.output with
    | some path => saveResult host "Diagram" path document
    | none =>
      printLine host document
      return .success

/-- Prints the word for the kind of a source. -/
def classify (source : String) : m Ending := do
  let text := Text.trimmed source
  printLine host (if C4.isC4 text then C4.name else (Dialect.ofText text).text)
  return .success

/-- The image address of a source. -/
def addressOf (invocation : Invocation) (configuration : Configuration) (source : String) :
    Except ImageAddress.AddressError String :=
  if invocation.isMermaid then
    ImageAddress.Mermaid.address source
      ((givenText invocation.format).getD configuration.mermaidFormat.text)
      configuration.mermaidServer.text configuration.mermaidBase none none
  else
    ImageAddress.PlantUml.address source
      (givenText invocation.theme <|> configuration.plantUmlTheme)
      ((givenText invocation.format).getD configuration.plantUmlFormat.text)
      (some configuration.plantUmlServer)

/-- Prints the image address of a source and fetches the image if that is asked
for. -/
def address (invocation : Invocation) (configuration : Configuration) (source : String) :
    m Ending := do
  match addressOf invocation configuration source with
  | .error error => return .reported error.message
  | .ok address =>
    printLine host address
    match givenText invocation.download with
    | none => return .success
    | some path =>
      let response ← host.fetch address configuration.requestTimeout
      let waited := String.ofList (Number.integerText configuration.requestTimeout)
      match ImageService.image waited response with
      | .error error => return .reported error.message
      | .ok image => saveResult host "Image" path image

/-- Does what is asked for, with the given way to get at the source. -/
def execute (invocation : Invocation) (content : m String) : m Ending := do
  if invocation.showVersion then
    printLine host version
    return .success
  else
    match ← loadConfiguration host invocation.configuration with
    | .error ending => return ending
    | .ok configuration =>
      let source := String.ofList (Text.unifyLineEnds (← content).toList)
      match invocation.command with
      | .convert => convert host invocation configuration source
      | .classify => classify host source
      | .address => address host invocation configuration source

/-- Runs the program with the given arguments. A source that cannot be opened is a
misuse whatever else is asked for, unless its path can be none. -/
def run (arguments : List String) : m Ending := do
  match Invocation.ofArguments? arguments with
  | none => return .misuse
  | some invocation =>
    if invocation.source == standardInput then execute host invocation host.input
    else
      match ← host.file invocation.source with
      | .error .notName => return .crashed (.file invocation.source .notName)
      | .error _ => return .misuse
      | .ok content => execute host invocation (pure content)

end

end Drafting.CommandLine
