import Drafting.StateDiagram.Basic
import Drafting.Text.Scan

/-!
# Statements of state diagrams

Outside of notes a line declares a state or is a transition. The line that opens
a note may name the state it belongs to.
-/

namespace Drafting.StateDiagram

open Text

/-- What a line outside of notes says. -/
inductive Statement where
  | declaration (name label : String)
  | transition (source target label : String)
  deriving DecidableEq, Repr

/-- The state that the line which opens a note names, if it names one beside
which the note stands. -/
def notedState? (line : List Char) : Option (List Char) := do
  let rest ← skipBlanks? (← expect "note" line)
  let rest ← (expect "left" rest) <|> (expect "right" rest)
  let rest ← expect "of" (← skipBlanks? rest)
  let (name, _) ← word? (← skipBlanks? rest)
  return name

namespace Statement

/-- A state with a quoted label and a name. -/
def labelledState? (line : List Char) : Option Statement := do
  let rest ← skipBlanks? (← expect "state" line)
  let rest ← expect "\x22" rest
  let (label, rest) ← run? (· != '\x22') rest
  let rest ← skipBlanks? (← expect "\x22" rest)
  let rest ← skipBlanks? (← expect "as" rest)
  let (name, _) ← word? rest
  return .declaration (String.ofList name) (String.ofList label)

/-- A state given by its name, perhaps with an opening brace. -/
def plainState? (line : List Char) : Option Statement := do
  let rest ← skipBlanks? (← expect "state" line)
  let (name, rest) ← word? rest
  let ended :=
    match expect "\x7b" (dropBlanks rest) with
    | some rest => atEnd rest
    | none => atEnd rest
  if ended then some (.declaration (String.ofList name) (String.ofList name)) else none

/-- The name of a state at one end of a transition, or the mark `[*]`. -/
def stateName? (line : List Char) : Option (List Char × List Char) :=
  match expect State.pseudoName line with
  | some rest => some (State.pseudoName.toList, rest)
  | none => word? line

/-- Two states with an arrow of dashes between them, and perhaps a label. -/
def transition? (line : List Char) : Option Statement := do
  let (source, rest) ← stateName? line
  let (_, rest) ← run? (· == '-') (dropBlanks rest)
  let (target, rest) ← stateName? (dropBlanks (← expect ">" rest))
  let label ← optionalLabel? rest
  return .transition (String.ofList source) (String.ofList target) (String.ofList label)

/-- The statements in the order in which they are tried. -/
def forms : List (List Char → Option Statement) := [labelledState?, plainState?, transition?]

/-- Reads the statement of a line, if it is one. -/
def ofLine? (line : String) : Option Statement := forms.findSome? fun form => form line.toList

end Statement

end Drafting.StateDiagram
