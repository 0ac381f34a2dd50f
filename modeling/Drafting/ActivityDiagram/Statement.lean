import Drafting.Text.Scan

/-!
# Statements of activity diagrams

A line of an activity diagram is one of fourteen statements, which are told
apart by the keyword or the mark at the beginning and tried in a fixed order.
Labels and conditions stand in parentheses or between marks and are trimmed.
-/

namespace Drafting.ActivityDiagram

open Text

/-- What a line says. -/
inductive Statement where
  | lane (color : Option String) (label : String)
  | openPartition (label : String)
  | closePartition
  | start
  | stop
  | fork
  | action (label : String)
  | ifThen (condition branch : String)
  | elseIf (condition branch : String)
  | elseBranch (branch : String)
  | endIf
  | whileLoop (condition : String) (branch : Option String)
  | endWhile
  deriving DecidableEq, Repr

namespace Statement

/-- The trimmed text of some characters. -/
def labelOf (characters : List Char) : String := String.ofList (trim characters)

/-- A name between bars, perhaps behind a colour between bars. -/
def lane? (line : List Char) : Option Statement := do
  let rest ← expect "|" line
  let name (color : Option String) (rest : List Char) : Option Statement := do
    let (label, rest) ← run? (· != '|') rest
    let rest ← expect "|" rest
    if atEnd rest then some (.lane color (labelOf label)) else none
  let colored := do
    let (color, rest) ← word? (← expect "#" rest)
    name (some (String.ofList color)) (← expect "|" rest)
  colored <|> name none rest

/-- The characters of a partition's name. -/
def isPartitionName (character : Char) : Bool := character != '\x22' && character != '\x7b'

/-- A partition with its name and perhaps an opening brace. -/
def openPartition? (line : List Char) : Option Statement := do
  let rest ← expect "partition" line
  someBlanks rest fun rest =>
    optionally '\x22' rest fun rest => do
      let (label, rest) ← run? isPartitionName rest
      optionally '\x22' rest fun rest =>
        optionally '\x7b' (dropBlanks rest) fun rest =>
          if atEnd rest then some (.openPartition (labelOf label)) else none

/-- A label between a colon and the semicolon that ends the line. -/
def action? (line : List Char) : Option Statement := do
  let rest ← expect ":" line
  let (label, _) ← longest1 inLine rest fun rest => do
    let rest ← expect ";" rest
    if atEnd rest then some () else none
  return .action (labelOf label)

/-- The label in parentheses that ends a line. -/
def lastLabel? (line : List Char) : Option (List Char) := do
  let rest ← expect "(" (dropBlanks line)
  let (label, _) ← longest1 inLine rest fun rest => do
    let rest ← expect ")" rest
    if atEnd rest then some () else none
  return label

/-- A keyword, a condition in parentheses, and the label of a branch. -/
def branch? (keyword : String) (make : String → String → Statement) (line : List Char) :
    Option Statement := do
  let rest ← expect keyword line
  let rest ← expect "(" (dropBlanks rest)
  let (condition, branch) ← longest1 inLine rest fun rest => do
    let rest ← expect ")" rest
    lastLabel? (← expect "then" (dropBlanks rest))
  return make (labelOf condition) (labelOf branch)

/-- The last branch of a decision. -/
def elseBranch? (line : List Char) : Option Statement := do
  let label ← lastLabel? (← expect "else" line)
  return .elseBranch (labelOf label)

/-- A loop with its condition and perhaps the label of its body, which is not
trimmed. -/
def whileLoop? (line : List Char) : Option Statement := do
  let rest ← expect "while" line
  let rest ← expect "(" (dropBlanks rest)
  let (condition, branch) ← shortest1 inLine rest fun rest => do
    let rest := dropBlanks (← expect ")" rest)
    let labelled := do
      let branch ← lastLabel? (← expect "is" rest)
      return some (String.ofList branch)
    labelled <|> if atEnd rest then some none else none
  return .whileLoop (labelOf condition) branch

/-- A statement without arguments. -/
def keyword? (words : List String) (statement : Statement) (line : List Char) : Option Statement :=
  if words.any fun word => isLine word line then some statement else none

/-- The statements in the order in which they are tried. -/
def forms : List (List Char → Option Statement) :=
  [ lane?, openPartition?, keyword? ["\x7d"] .closePartition, keyword? ["start"] .start,
    keyword? ["stop", "end"] .stop, keyword? ["fork", "fork again", "end fork"] .fork, action?,
    branch? "if" .ifThen, branch? "elseif" .elseIf, elseBranch?, keyword? ["endif"] .endIf,
    whileLoop?, fun line => (expect "endwhile" line).map fun _ => .endWhile ]

/-- Reads the statement of a line, if it is one. -/
def ofLine? (line : String) : Option Statement := forms.findSome? fun form => form line.toList

end Statement

end Drafting.ActivityDiagram
