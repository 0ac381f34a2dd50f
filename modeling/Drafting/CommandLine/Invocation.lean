import Drafting.Choice

/-!
# Invocations

The arguments of the program name a command, at most one source and options.
An option has the form of two hyphens and a name; its value follows, or is
attached with an equals sign. The last of several equal options counts, and
behind two hyphens alone everything is a source. A single hyphen is the source
that stands for the standard input.
-/

namespace Drafting.CommandLine

/-- What the program can do. -/
inductive Command where
  | convert
  | classify
  | address
  deriving DecidableEq, Repr

/-- All commands. -/
def Command.all : List Command := [.convert, .classify, .address]

/-- The word for a command. -/
def Command.text : Command → String
  | .convert => "convert"
  | .classify => "classify"
  | .address => "imgurl"

/-- The source that stands for the standard input. -/
def standardInput : String := "-"

/-- What the program is asked to do. Options that a command does not have are
absent. -/
structure Invocation where
  command : Command
  source : String := standardInput
  configuration : Option String := none
  showVersion : Bool := false
  output : Option String := none
  compressed : Option Bool := none
  isMermaid : Bool := false
  theme : Option String := none
  format : Option String := none
  download : Option String := none
  deriving DecidableEq, Repr

namespace Invocation

/-- The options of a command that have a value. -/
def valued : Command → List (String × (Invocation → String → Invocation))
  | .convert =>
    [ ("--config", fun invocation value => { invocation with configuration := some value }),
      ("--output", fun invocation value => { invocation with output := some value }) ]
  | .classify =>
    [("--config", fun invocation value => { invocation with configuration := some value })]
  | .address =>
    [ ("--config", fun invocation value => { invocation with configuration := some value }),
      ("--theme", fun invocation value => { invocation with theme := some value }),
      ("--format", fun invocation value => { invocation with format := some value }),
      ("--download", fun invocation value => { invocation with download := some value }) ]

/-- The options of a command that have no value. The one that asks for more log
lines changes nothing of what a command does. -/
def switches : Command → List (String × (Invocation → Invocation))
  | .convert =>
    [ ("--debug", id),
      ("--version", fun invocation => { invocation with showVersion := true }),
      ("--compressed", fun invocation => { invocation with compressed := some true }),
      ("--no-compressed", fun invocation => { invocation with compressed := some false }) ]
  | .classify => [("--debug", id)]
  | .address =>
    [("--debug", id), ("--mermaid", fun invocation => { invocation with isMermaid := true })]

/-- Whether an argument has the form of an option. -/
def isOption (argument : String) : Bool :=
  match argument.toList with
  | '-' :: _ :: _ => true
  | _ => false

/-- The name of an option, and the value that is attached to it. -/
def splitOption (argument : String) : String × Option String :=
  let name := argument.toList.takeWhile (· != '=')
  match argument.toList.dropWhile (· != '=') with
  | [] => (argument, none)
  | _ :: value => (String.ofList name, some (String.ofList value))

/-- Reads the arguments behind a command, together with the sources among them. -/
def readArguments (invocation : Invocation) (sources : List String) :
    List String → Option (Invocation × List String)
  | [] => some (invocation, sources)
  | argument :: rest =>
    if argument == "--" then some (invocation, sources ++ rest)
    else if isOption argument then
      let (name, attached) := splitOption argument
      match (switches invocation.command).lookup name with
      | some change =>
        if attached.isSome then none else readArguments (change invocation) sources rest
      | none =>
        match (valued invocation.command).lookup name with
        | none => none
        | some change =>
          match attached with
          | some value => readArguments (change invocation value) sources rest
          | none =>
            match rest with
            | [] => none
            | value :: others => readArguments (change invocation value) sources others
    else readArguments invocation (sources ++ [argument]) rest

/-- Reads a command and the arguments behind it. -/
def ofCommand? : List String → Option Invocation
  | [] => none
  | word :: rest => do
    let command ← choose? Command.all Command.text word
    match ← readArguments { command } [] rest with
    | (invocation, []) => some invocation
    | (invocation, [source]) => some { invocation with source }
    | _ => none

/-- Reads the arguments of the program. Two hyphens may stand before the command,
because there could be options too. -/
def ofArguments? : List String → Option Invocation
  | "--" :: arguments => ofCommand? arguments
  | arguments => ofCommand? arguments

end Invocation

end Drafting.CommandLine
