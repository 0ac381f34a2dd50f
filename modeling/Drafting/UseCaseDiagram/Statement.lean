import Drafting.Relation
import Drafting.Text.Case
import Drafting.Text.Scan

/-!
# Statements of use case diagrams

A line opens or closes a rectangle, declares an actor or a use case, or relates
two of them. The keywords of declarations may be written in any case.
-/

namespace Drafting.UseCaseDiagram

open Text

/-- What a line says. -/
inductive Statement where
  | openRectangle (label : String)
  | actor (name label : String)
  | useCase (name label : String)
  | relation (source target : String) (hasHead : Bool) (label : String)
  deriving DecidableEq, Repr

namespace Statement

/-- A rectangle with a quoted label, perhaps with an opening brace. -/
def openRectangle? (line : List Char) : Option Statement := do
  let rest ← skipBlanks? (← expect "rectangle" line)
  let (label, rest) ← run? (· != '\x22') (← expect "\x22" rest)
  let rest ← expect "\x22" rest
  optionally '\x7b' (dropBlanks rest) fun rest =>
    if atEnd rest then some (.openRectangle (String.ofList label)) else none

/-- A keyword, a quoted label, and a name behind `as`, both words in any case. -/
def quoted? (keyword : String) (line : List Char) : Option (List Char × List Char) := do
  let (_, rest) ← expectAnyCase keyword line
  let rest ← expect "\x22" (← skipBlanks? rest)
  let (label, rest) ← run? (· != '\x22') rest
  let rest ← skipBlanks? (← expect "\x22" rest)
  let (_, rest) ← expectAnyCase "as" rest
  let (name, _) ← word? (← skipBlanks? rest)
  return (name, label)

/-- An actor with a quoted label. -/
def quotedActor? (line : List Char) : Option Statement := do
  let (name, label) ← quoted? "actor" line
  return .actor (String.ofList name) (String.ofList label)

/-- An actor given by its name. -/
def plainActor? (line : List Char) : Option Statement := do
  let (_, rest) ← expectAnyCase "actor" line
  let (name, _) ← word? (← skipBlanks? rest)
  return .actor (String.ofList name) (String.ofList name)

/-- The text with each run of blanks replaced by an underscore, where
`afterBlank` tells whether the run has begun. -/
def joinWords : Bool → List Char → List Char
  | _, [] => []
  | afterBlank, character :: rest =>
    if isBlank character then
      if afterBlank then joinWords true rest else '_' :: joinWords true rest
    else character :: joinWords false rest

/-- The name of a use case that is given by its label alone. -/
def nameOf (label : List Char) : List Char := joinWords false label

/-- A use case with a quoted label. -/
def quotedUseCase? (line : List Char) : Option Statement := do
  let (name, label) ← quoted? "usecase" line
  return .useCase (String.ofList name) (String.ofList label)

/-- A use case given by its label, which ends only at a quotation mark. -/
def plainUseCase? (line : List Char) : Option Statement := do
  let (_, rest) ← expectAnyCase "usecase" line
  someBlanks rest fun rest =>
    optionally '\x22' rest fun rest => do
      let (label, _) ← run? (· != '\x22') rest
      return .useCase (String.ofList (nameOf label)) (String.ofList label)

/-- A use case with its label in parentheses, perhaps with a name behind `as`. -/
def shortUseCase? (line : List Char) : Option Statement := do
  let (label, rest) ← run? (· != ')') (← expect "(" line)
  let rest ← expect ")" rest
  let name := do
    let rest ← expect "as" (dropBlanks rest)
    let (name, _) ← word? (← skipBlanks? rest)
    return name
  return .useCase (String.ofList (name.getD (nameOf label))) (String.ofList label)

/-- The characters of the line of a relation. -/
def isStroke (character : Char) : Bool := character == '-' || character == '.'

/-- The target of a relation: a name, or a label in parentheses, which are left
out. -/
def target? (line : List Char) : Option (List Char × List Char) :=
  match word? line with
  | some found => some found
  | none => do
    let (label, rest) ← run? (· != ')') (← expect "(" line)
    let rest ← expect ")" rest
    return (label.filter fun character => character != '(', rest)

/-- Two ends with a line between them, with or without a head, and perhaps a
label. -/
def relation? (line : List Char) : Option Statement := do
  let (source, rest) ← word? line
  let (_, rest) ← run? isStroke (dropBlanks rest)
  let headed := expect ">" rest
  let (target, rest) ← target? (dropBlanks (headed.getD rest))
  let label ← optionalLabel? rest
  return .relation (String.ofList source) (String.ofList target) headed.isSome
    (String.ofList label)

/-- The statements behind rectangles in the order in which they are tried. -/
def forms : List (List Char → Option Statement) :=
  [quotedActor?, plainActor?, quotedUseCase?, plainUseCase?, shortUseCase?, relation?]

/-- Reads the statement of a line, if it is one. -/
def ofLine? (line : String) : Option Statement := forms.findSome? fun form => form line.toList

end Statement

end Drafting.UseCaseDiagram
