import Drafting.C4.ElementLine

/-!
# Relation macros

Relations are found anywhere in a source, also across lines: a macro call with
two names, a quoted label and perhaps a quoted description. The macro itself must
begin a word.
-/

namespace Drafting.C4

open Text

/-- The characters of a name in a relation. -/
def isNameCharacter (character : Char) : Bool :=
  character != ',' && character != '(' && character != ')' && character != '\x22'

/-- A name with the comma behind it. It holds at least one character, which may
be a blank. -/
def nameBeforeComma? (text : List Char) : Option (List Char × List Char) := do
  let (name, rest) ← run? isNameCharacter text
  let rest ← expect "," rest
  return (trim name, rest)

/-- A quoted text. -/
def quotedText? (text : List Char) : Option (List Char × List Char) := do
  let rest ← expect "\x22" (dropBlanks text)
  let content := rest.takeWhile (· != '\x22')
  let rest ← expect "\x22" (rest.dropWhile (· != '\x22'))
  return (content, rest)

/-- A quoted text behind a comma. -/
def furtherText? (text : List Char) : Option (List Char × List Char) := do
  quotedText? (← expect "," (dropBlanks text))

/-- The relation at the beginning of a text, and what follows it. -/
def relation? (text : List Char) : Option (Relation × List Char) := do
  let rest ← relationMacro? text
  let (source, rest) ← nameBeforeComma? rest
  let (target, rest) ← nameBeforeComma? rest
  let (label, rest) ← quotedText? rest
  let (description, rest) := (furtherText? rest).getD ([], rest)
  return ({
    source := String.ofList source
    target := String.ofList target
    label := String.ofList (trim label)
    description := String.ofList (trim description) }, rest)

/-- The relations in a text. The first `skipped` characters belong to a relation
that was read already, and `inWord` tells whether a word stands before the
text. -/
def relationsFrom (inWord : Bool) : Nat → List Char → List Relation
  | _, [] => []
  | skipped + 1, character :: rest => relationsFrom (isWord character) skipped rest
  | 0, character :: rest =>
    match if inWord then none else relation? (character :: rest) with
    | some (relation, behind) =>
      relation :: relationsFrom (isWord character) (rest.length - behind.length) rest
    | none => relationsFrom (isWord character) 0 rest

/-- The relations declared in a source, in its order. -/
def relations (text : String) : List Relation := relationsFrom false 0 text.toList

end Drafting.C4
