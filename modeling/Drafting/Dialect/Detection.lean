import Drafting.Dialect.Basic
import Drafting.Text.Case
import Drafting.Text.Lines
import Drafting.Text.Scan

/-!
# Detecting the dialect

A source text does not say which dialect it is written in. Seven rules look for
words and lines that are typical of one dialect each; the first that holds
decides, and a text for which none holds is a class diagram. The order matters:
two actors and a message between them are a sequence diagram, although the actors
alone would be part of a use case diagram.
-/

namespace Drafting.Dialect

open Text

/-- A source text as the rules see it: its characters, the same with capitals made
small, and its normalized lines. -/
structure Source where
  characters : List Char
  small : List Char
  lines : List (List Char)

/-- The source with a given text and given lines. -/
def Source.of (text : String) (lines : List String) : Source :=
  { characters := text.toList
    small := lowerPlain text.toList
    lines := lines.map String.toList }

/-- Whether the text holds some words, whatever their case. -/
def Source.mentions (source : Source) (words : String) : Bool := occursIn words source.small

/-- Two names with an arrow of dashes between them and a colon behind them, where
`accepts` tells the characters of a name and `head?` reads the head. -/
def isMessageLine (accepts : Char → Bool) (head? : List Char → Option (List Char))
    (line : List Char) : Bool :=
  let colon := do
    let (_, rest) ← run? accepts line
    let (_, rest) ← run? (· == '-') (dropBlanks rest)
    let rest ← head? rest
    let (_, rest) ← run? accepts (dropBlanks rest)
    expect ":" (dropBlanks rest)
  colon.isSome

/-- A message between names that may be quoted, with an arrow of any head. -/
def isQuotedMessage (line : List Char) : Bool :=
  isMessageLine (fun character => isWord character || character == '\x22')
    (fun line => (run? (· == '>') line).map Prod.snd) line

/-- A message between plain names, with a single head. -/
def isPlainMessage (line : List Char) : Bool := isMessageLine isWord (expect ">") line

/-- A line that begins with a colon and ends with a semicolon. -/
def isActionLine (line : List Char) : Bool :=
  let last := do
    let rest ← expect ":" line
    longest inLine rest fun rest => do
      let rest ← expect ";" rest
      if (dropBlanks rest).isEmpty then some () else none
  last.isSome

/-- Messages, or participants or actors with an arrow. -/
def Source.isSequence (source : Source) : Bool :=
  source.lines.any isQuotedMessage ||
    (source.mentions "participant " && source.mentions " -> ") ||
    (source.mentions "actor " && source.mentions " -> " && source.lines.any isPlainMessage)

/-- Actors with use cases or rectangles and without messages. -/
def Source.isUseCase (source : Source) : Bool :=
  source.mentions "actor " && (source.mentions "usecase " || source.mentions "rectangle ") &&
    !source.lines.any isPlainMessage

/-- A start with a stop or with a colon and a semicolon, an action line, or an
alternative that is closed. The mark at the beginning of a source may hold the
word `start`, so a colon and a semicolon suffice there. -/
def Source.isActivity (source : Source) : Bool :=
  (source.mentions "start" &&
      (source.mentions "stop" ||
        (source.characters.contains ':' && source.characters.contains ';'))) ||
    source.lines.any isActionLine ||
    (source.mentions "if (" && source.mentions "endif")

/-- The mark of a first or last state, or states with an arrow. -/
def Source.isState (source : Source) : Bool :=
  source.mentions "[*]" || (source.mentions "state " && source.lines.any (occursIn "->"))

/-- The mark of a mind map. -/
def Source.isMindmap (source : Source) : Bool := source.mentions "@startmindmap"

/-- Entities or the ends of their relationships. -/
def Source.isEntities (source : Source) : Bool :=
  source.mentions "entity " || source.mentions "\x7d|" || source.mentions "|\x7b"

/-- Three of the node kinds of a deployment. -/
def Source.isDeployment (source : Source) : Bool :=
  source.mentions "database " || source.mentions "cloud " || source.mentions "artifact "

/-- The rules in the order in which they are asked. -/
def rules : List ((Source → Bool) × Dialect) :=
  [ (Source.isSequence, sequence), (Source.isUseCase, useCase), (Source.isActivity, activity),
    (Source.isState, state), (Source.isMindmap, mindmap), (Source.isEntities, entities),
    (Source.isDeployment, deployment) ]

/-- The dialect of a source, given its text and its lines. -/
def ofSource (text : String) (lines : List String) : Dialect :=
  let source := Source.of text lines
  match rules.find? fun rule => rule.1 source with
  | some rule => rule.2
  | none => classes

/-- The dialect of a text. -/
def ofText (text : String) : Dialect := ofSource text (normalizedLines text)

end Drafting.Dialect
