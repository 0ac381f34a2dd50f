import Drafting.EntityDiagram.Basic
import Drafting.Text.Scan

/-!
# Statements of entity relationship diagrams

A line begins an entity, ends one, is an attribute of the entity it stands in, or
is a relationship. Which of the last two it is depends on where it stands.
-/

namespace Drafting.EntityDiagram

open Text

/-- The characters of an entity's name. -/
def isNameCharacter (character : Char) : Bool :=
  character != '\x22' && character != '\x7b' && !isBlank character

/-- The end of the line that begins an entity. -/
def endOfHead? (line : List Char) : Option Unit :=
  optionally '\x7b' (dropBlanks line) fun rest => if atEnd rest then some () else none

/-- What follows the label of an entity: perhaps a name behind `as`, and the end
of the line. The answer is the name. -/
def headBehindLabel? (line : List Char) : Option (Option (List Char)) :=
  let named := do
    let rest ← expect "as" line
    let (name, rest) ← word? (← skipBlanks? rest)
    let _ ← endOfHead? rest
    return some name
  named <|> (endOfHead? line).map fun _ => none

/-- The name and the label of the entity that a line begins. The label ends where
the rest of the line can be read, so it need not be followed by a blank. -/
def head? (line : List Char) : Option (List Char × List Char) := do
  let rest ← skipBlanks? (← expect "entity" line)
  let (label, name) ← optionally '\x22' rest fun rest =>
    longest1 isNameCharacter rest fun rest =>
      optionally '\x22' rest fun rest => headBehindLabel? (dropBlanks rest)
  return (name.getD label, label)

/-- The text without the first asterisk in it. -/
def dropAsterisk : List Char → List Char
  | [] => []
  | character :: rest => if character == '*' then rest else character :: dropAsterisk rest

/-- The attribute in a line: a name, which an asterisk may precede, and perhaps a
type. -/
def attribute? (line : String) : Option EntityAttribute := do
  let (name, type) ← optionally '*' line.toList fun rest =>
    anyBlanks rest fun rest => do
      let (name, rest) ← run? (· != ':') rest
      if rest.isEmpty then some (name, [])
      else
        let type ← labelBehindColon? rest
        return (name, type)
  return {
    name := String.ofList (trim (dropAsterisk name))
    type := String.ofList type
    isPrimaryKey := (expect "*" line.toList).isSome }

/-- The characters that show how many entities stand at one end. -/
def isCardinality (character : Char) : Bool :=
  ['|', 'o', '\x7b', '\x7d', '[', ']'].contains character

/-- The characters of the line between the two ends. -/
def isStroke (character : Char) : Bool := character == '-' || character == '.'

/-- A relationship: two names, a line with its cardinalities between them, and
perhaps a label. The mark for an optional end is a letter, which may be taken as
part of a name. -/
def relationship? (line : List Char) : Option Relationship := do
  let (source, _, _, _, target, label) ← longest1 isWord line fun rest =>
    longest1 isCardinality (dropBlanks rest) fun rest =>
      longest1 isStroke rest fun rest =>
        longest1 isCardinality rest fun rest => do
          let (target, rest) ← word? (dropBlanks rest)
          let label ← optionalLabel? rest
          return (target, label)
  return {
    source := String.ofList source
    target := String.ofList target
    label := String.ofList label }

end Drafting.EntityDiagram
