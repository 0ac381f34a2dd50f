import Drafting.SequenceDiagram.Basic
import Drafting.Text.Case
import Drafting.Text.Lines
import Drafting.Text.Scan

/-!
# Statements of sequence diagrams

Outside of notes a line is a separator, a part of an alternative, the
declaration of a participant or a message, tried in this order. The keyword of a
declaration may be written in any case; what it then says in small letters need
not be a keyword, and such a declaration is an error.
-/

namespace Drafting.SequenceDiagram

open Text

/-- A message line: who sends to whom, the arrow, and the text. -/
structure MessageLine where
  source : String
  target : String
  arrow : String
  text : String
  deriving DecidableEq, Repr

/-- What a line says. A declaration holds its keyword in small letters. -/
inductive Statement where
  | group (label : String)
  | openAlternative (label : String)
  | otherwise
  | close
  | declaration (keyword name label : String)
  | message (line : MessageLine)
  deriving DecidableEq, Repr

namespace Statement

/-- A label between pairs of equality signs. -/
def group? (line : List Char) : Option Statement := do
  let rest ← expect "==" line
  let (label, _) ← anyBlanks rest fun rest =>
    longest1 inLine rest fun rest => do
      let rest ← expect "==" (dropBlanks rest)
      if atEnd rest then some () else none
  return .group (String.ofList (trim label))

/-- The keywords of a declaration. -/
def declarationKeywords : List String := ["participant", "actor"]

/-- A word behind `as`, which must follow a blank. -/
def givenName? (line : List Char) : Option (List Char) := do
  let (_, rest) ← expectAnyCase "as" (← skipBlanks? line)
  let (word, _) ← word? (← skipBlanks? rest)
  return word

/-- A declaration with a quoted label and a name. -/
def quotedDeclaration? (line : List Char) : Option Statement := do
  let (keyword, rest) ← firstKeyword declarationKeywords line
  let rest ← expect "\x22" (← skipBlanks? rest)
  let (label, rest) ← run? (· != '\x22') rest
  let name ← givenName? (← expect "\x22" rest)
  return .declaration (String.ofList (lowerKeyword keyword)) (String.ofList name)
    (String.ofList label)

/-- A declaration with a plain label, which is also the name if none is given. -/
def plainDeclaration? (line : List Char) : Option Statement := do
  let (keyword, rest) ← firstKeyword declarationKeywords line
  let (label, rest) ← word? (← skipBlanks? rest)
  let name := (givenName? rest).getD label
  return .declaration (String.ofList (lowerKeyword keyword)) (String.ofList name)
    (String.ofList label)

/-- The characters of an arrow. -/
def isArrow (character : Char) : Bool :=
  character == '-' || character == '<' || character == '>' || character == '.'

/-- A name, which may be quoted, and what `next` finds behind it; the name is as
short as the rest of the line allows. -/
def messageEnd {α : Type} (line : List Char) (next : List Char → Option α) :
    Option (List Char × α) :=
  optionally '\x22' line fun rest =>
    shortest1 (· != '\x22') rest fun rest => optionally '\x22' rest next

/-- The text of a message, to the end of the line. -/
def messageText? (line : List Char) : Option (List Char) :=
  anyBlanks line fun rest =>
    if atEnd (rest.dropWhile inLine) then some (trim (rest.takeWhile inLine)) else none

/-- Two names with an arrow between them, a colon and a text. -/
def message? (line : List Char) : Option Statement := do
  let (source, arrow, target, text) ← messageEnd line fun rest =>
    anyBlanks rest fun rest =>
      longest1 isArrow rest fun rest =>
        anyBlanks rest fun rest =>
          messageEnd rest fun rest => do messageText? (← expect ":" (dropBlanks rest))
  return .message {
    source := String.ofList (trim source)
    target := String.ofList (trim target)
    arrow := String.ofList arrow
    text := String.ofList text }

/-- The beginning of an alternative with its condition. -/
def openAlternative? (line : List Char) : Option Statement := do
  let rest ← expect "alt " line
  return .openAlternative (String.ofList (trim rest))

/-- The statements in the order in which they are tried. -/
def forms : List (List Char → Option Statement) :=
  [ group?, openAlternative?, fun line => (expect "else" line).map fun _ => .otherwise,
    fun line => if line == "end".toList then some .close else none, quotedDeclaration?,
    plainDeclaration?, message? ]

/-- Reads the statement of a line, if it is one. -/
def ofLine? (line : String) : Option Statement := forms.findSome? fun form => form line.toList

end Statement

end Drafting.SequenceDiagram
