import Drafting.Relation
import Drafting.Text.Scan

/-!
# Relation lines of class diagrams

A relation is written as two words with an arrow between them, somewhere in a
line. The head of the arrow tells its kind. Nine forms are tried in a fixed
order, each at every word of the line, and the first that fits anywhere is taken;
dotted realization arrows come before the inheritance arrows, which would fit them
too.
-/

namespace Drafting.Relation

open Text

/-- The two words of a relation, in the order in which they stand in the line. -/
structure Ends where
  left : List Char
  right : List Char

/-- The characters from which the line of an arrow is drawn. -/
def isStroke (character : Char) : Bool := character == '-' || character == '.'

/-- Two or more dots, as many as there are. -/
def dotted? (line : List Char) : Option (List Char) := do
  let rest ← expect ".." line
  return rest.dropWhile (· == '.')

/-- One or more dashes and dots, as many as there are. -/
def stroke? (line : List Char) : Option (List Char) := do
  let (_, rest) ← run? isStroke line
  return rest

/-- The next word of the line, whatever stands before it in the same line. -/
def nextWord? (line : List Char) : Option (List Char) := do
  let (word, _) ← word? (line.dropWhile fun character => inLine character && !isWord character)
  return word

/-- The word behind the first triangle that points to the right and has a word
behind it. -/
def wordBehindTriangle? (line : List Char) : Option (List Char) := do
  let (_, word) ← shortest inLine line fun rest => do
    let (word, _) ← word? (dropBlanks (← expect "|>" rest))
    return word
  return word

/-- A word and, behind it, an arrow that begins with a triangle. -/
def triangleLeft? (line? : List Char → Option (List Char)) (text : List Char) : Option Ends := do
  let (left, rest) ← word? text
  let rest ← expect "<|" (dropBlanks rest)
  let right ← nextWord? (← line? rest)
  return ⟨left, right⟩

/-- A word and, behind it, an arrow that ends in a triangle. -/
def triangleRight? (line? : List Char → Option (List Char)) (text : List Char) : Option Ends := do
  let (left, rest) ← word? text
  let right ← wordBehindTriangle? (← line? (dropBlanks rest))
  return ⟨left, right⟩

/-- A word and, behind it, an arrow that begins with a filled diamond. -/
def filledDiamond? (text : List Char) : Option Ends := do
  let (left, rest) ← word? text
  let rest ← expect "*" (dropBlanks rest)
  let right ← nextWord? (← stroke? rest)
  return ⟨left, right⟩

/-- A word and, behind it, an arrow that begins with an open diamond. The mark of
the diamond is a letter, so it may also be the last letter of a longer word. -/
def openDiamond? (text : List Char) : Option Ends := do
  let (word, behind) ← word? text
  let apart := do
    let right ← nextWord? (← stroke? (← expect "o" (dropBlanks behind)))
    return ⟨word, right⟩
  let joined := do
    let right ← nextWord? (← stroke? behind)
    if 1 < word.length && word.getLast? == some 'o' then some ⟨word.dropLast, right⟩ else none
  apart <|> joined

/-- The label behind the second word, if there is one. -/
def labelBehind (line : List Char) : List Char :=
  match dropBlanks line with
  | ':' :: rest => trim ((dropBlanks rest).takeWhile inLine)
  | _ => []

/-- A word, an arrow of which `arrow?` gives the rest, a second word and perhaps a
label. -/
def labelled? (arrow? : List Char → Option (List Char)) (text : List Char) :
    Option (Ends × List Char) := do
  let (left, rest) ← word? text
  let rest ← arrow? (dropBlanks rest)
  let (right, rest) ← word? (dropBlanks rest)
  return (⟨left, right⟩, labelBehind rest)

/-- One or more of the same stroke and a head. -/
def headed? (stroke : Char) (line : List Char) : Option (List Char) := do
  let (_, rest) ← run? (· == stroke) line
  expect ">" rest

/-- A relation from the left word to the right one. -/
def forward (kind : RelationKind) (ends : Ends) : Relation :=
  { source := String.ofList ends.left, target := String.ofList ends.right, kind }

/-- A relation from the right word to the left one. -/
def backward (kind : RelationKind) (ends : Ends) : Relation :=
  { source := String.ofList ends.right, target := String.ofList ends.left, kind }

/-- A relation from the left word to the right one with a label. -/
def withLabel (kind : RelationKind) (found : Ends × List Char) : Relation :=
  { forward kind found.1 with label := String.ofList found.2 }

/-- The forms of a relation in the order in which they are tried. -/
def forms : List (List Char → Option Relation) :=
  [ fun text => (triangleLeft? dotted? text).map (backward .implementation),
    fun text => (triangleRight? dotted? text).map (forward .implementation),
    fun text => (triangleLeft? stroke? text).map (backward .inheritance),
    fun text => (triangleRight? stroke? text).map (forward .inheritance),
    fun text => (filledDiamond? text).map (forward .composition),
    fun text => (openDiamond? text).map (forward .aggregation),
    fun text => (labelled? (headed? '-') text).map (withLabel .association),
    fun text => (labelled? (headed? '.') text).map (withLabel .dependency),
    fun text => (labelled? (expect "--") text).map (withLabel .association) ]

/-- Reads the relation in a line, if there is one. -/
def ofLine? (line : String) : Option Relation :=
  forms.findSome? fun form => searchWords form false line.toList

end Drafting.Relation
