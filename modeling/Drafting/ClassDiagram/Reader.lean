import Drafting.ClassDiagram.Member
import Drafting.ClassDiagram.RelationLine
import Drafting.Directive

/-!
# Reading class diagrams

A class is declared by a keyword and a name. If its declaration holds an opening
brace, the lines up to the first that begins with a closing brace are its body.
Other lines are actors or relations; what is neither is ignored. A body that is
not closed ends with the source.
-/

namespace Drafting

open Text

namespace ClassKind

/-- The first kind whose keyword begins the text, and what follows it. -/
def ofStart? (text : List Char) : Option (ClassKind × List Char) :=
  all.findSome? fun kind => (expect kind.text text).map (kind, ·)

end ClassKind

namespace ClassBox

/-- The characters of a class name. -/
def isNameCharacter (character : Char) : Bool :=
  character != '\x22' && character != '\x7b' && !isBlank character

/-- The name behind a keyword. A quotation mark before it is not part of it. -/
def nameBehind? (text : List Char) : Option (List Char) := do
  let rest ← skipBlanks? text
  let rest := match rest with
    | '\x22' :: inner => inner
    | other => other
  let (name, _) ← run? isNameCharacter rest
  return name

/-- The name of a declaration without a leading `abstract`. -/
def declaredName? (text : List Char) : Option (List Char) := do
  let (_, rest) ← ClassKind.ofStart? text
  nameBehind? rest

/-- The name of a declaration. A leading `abstract` is skipped if a declaration
follows it; otherwise it is the keyword. -/
def name? (line : List Char) : Option (List Char) :=
  let behindAbstract := do
    let rest ← expect "abstract" line
    declaredName? (← skipBlanks? rest)
  match behindAbstract with
  | some name => some name
  | none => declaredName? line

/-- The class that a line declares, without its body. The first keyword gives the
kind. -/
def ofDeclaration? (line : String) : Option ClassBox := do
  let name ← name? line.toList
  let (kind, _) ← ClassKind.ofStart? line.toList
  return { name := String.ofList name, kind }

/-- Whether a declaration opens a body. -/
def opensBody (line : String) : Bool := line.toList.contains '\x7b'

/-- Whether a line closes a body. -/
def closesBody (line : String) : Bool := (expect "\x7d" line.toList).isSome

/-- Adds a line of the body. Empty lines and a brace on a line of its own are no
members. -/
def addBodyLine (box : ClassBox) (line : String) : ClassBox :=
  let content := trimmed line
  if content.isEmpty || content == "\x7b" then box else box.addMember (ClassMember.ofLine content)

/-- The class declared by the first of some lines, with its body, and the number
of lines behind the first that belong to it. For a body that is not closed this
counts one line past the last. -/
def ofLines? (lines : List String) : Option (ClassBox × Nat) :=
  match lines with
  | [] => none
  | declaration :: rest => do
    let box ← ofDeclaration? declaration
    if opensBody declaration then
      let body := rest.takeWhile fun line => !closesBody line
      return (body.foldl addBodyLine box, body.length + 1)
    else return (box, 0)

end ClassBox

namespace Actor

/-- A word behind `as`, if there is one. -/
def givenName? (line : List Char) : Option (List Char) := do
  let rest ← expect "as" line
  let (word, _) ← word? (← skipBlanks? rest)
  return word

/-- The actor declared at the beginning of a text: everything up to a quotation
mark is the label, and a word behind `as` the name. -/
def ofText? (text : List Char) : Option Actor := do
  let rest ← expect "actor" text
  someBlanks rest fun rest =>
    optionally '\x22' rest fun rest => do
      let (label, rest) ← run? (· != '\x22') rest
      let name := (givenName? (dropBlanks (rest.drop 1))).getD label
      return { name := String.ofList name, label := String.ofList label }

/-- The first actor declared in a line. -/
def ofLine? (line : String) : Option Actor := search ofText? line.toList

end Actor

namespace ClassDiagram

/-- What has been read, and the class whose body is being read. -/
structure Progress where
  diagram : ClassDiagram := {}
  opened : Option ClassBox := none
  deriving DecidableEq, Repr

/-- The beginnings of lines that are no part of a class diagram. -/
def ignored : List String := ["@", "skinparam", "hide", "show"]

/-- The beginnings of class declarations. -/
def declarations : List String := ["class ", "interface ", "abstract ", "enum "]

/-- Adds a class. -/
def addClass (diagram : ClassDiagram) (box : ClassBox) : ClassDiagram :=
  { diagram with classes := diagram.classes ++ [box] }

/-- Reads a line outside of all bodies. -/
def Progress.readTopLine (progress : Progress) (line : String) : Progress :=
  let diagram := progress.diagram
  let characters := line.toList
  if beginsWithAny ignored characters then progress
  else if beginsWithAny declarations characters then
    match ClassBox.ofDeclaration? line with
    | some box =>
      if ClassBox.opensBody line then { progress with opened := some box }
      else { progress with diagram := diagram.addClass box }
    | none => progress
  else if (expect "actor " characters).isSome then
    match Actor.ofLine? line with
    | some actor =>
      { progress with diagram := { diagram with actors := diagram.actors ++ [actor] } }
    | none => progress
  else
    match Relation.ofLine? line with
    | some relation =>
      { progress with diagram := { diagram with relations := diagram.relations ++ [relation] } }
    | none => progress

/-- Reads one more line. -/
def Progress.readLine (progress : Progress) (line : String) : Progress :=
  match progress.opened with
  | none => progress.readTopLine line
  | some box =>
    if ClassBox.closesBody line then { diagram := progress.diagram.addClass box }
    else { progress with opened := some (box.addBodyLine line) }

/-- The diagram at the end of the source, with the class whose body is open. -/
def Progress.finish (progress : Progress) : ClassDiagram :=
  match progress.opened with
  | none => progress.diagram
  | some box => progress.diagram.addClass box

/-- Reads a class diagram from its lines. -/
def ofLines (lines : List String) : ClassDiagram :=
  (lines.foldl Progress.readLine {}).finish

end ClassDiagram

end Drafting
