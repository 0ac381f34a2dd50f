import Drafting.Directive
import Drafting.UseCaseDiagram.Basic
import Drafting.UseCaseDiagram.Statement

/-!
# Reading use case diagrams

The reader goes through the lines once. It keeps the rectangles that are open,
innermost first. A relation adds what it names: an unknown target becomes a use
case outside of all rectangles, and an unknown source becomes an actor if its
name looks like that of a person.
-/

namespace Drafting.UseCaseDiagram

open Text

/-- What has been read, and the open rectangles by their positions. -/
structure Progress where
  diagram : UseCaseDiagram := {}
  openRectangles : List Nat := []
  deriving DecidableEq, Repr

/-- Parts of names that stand for persons: user, and the suffix for one who does
something. -/
def personHints : List String := ["用户", "员"]

/-- Whether a name looks like that of a person: it begins with a capital letter
or holds a hint. -/
def looksLikeActor (name : String) : Bool :=
  (match name.toList with
    | first :: _ => 'A' ≤ first && first ≤ 'Z'
    | [] => false) ||
  personHints.any fun hint => occursIn hint name.toList

namespace Progress

/-- Whether an actor of this name is known. -/
def hasActor (progress : Progress) (name : String) : Bool :=
  progress.diagram.actors.any fun actor => actor.name == name

/-- Whether a use case of this name is known. -/
def hasUseCase (progress : Progress) (name : String) : Bool :=
  progress.diagram.useCases.any fun useCase => useCase.name == name

/-- Opens a rectangle. -/
def openRectangle (progress : Progress) (label : String) : Progress :=
  { diagram := { progress.diagram with
      rectangles := progress.diagram.rectangles ++ [{ label }] }
    openRectangles := progress.diagram.rectangles.length :: progress.openRectangles }

/-- Adds an actor, unless one of that name is known. -/
def addActor (progress : Progress) (name label : String) : Progress :=
  if progress.hasActor name then progress
  else
    { progress with diagram := { progress.diagram with
        actors := progress.diagram.actors ++ [{ name, label }] } }

/-- Adds a use case, unless one of that name is known. It goes into the given
rectangle, if there is one. -/
def addUseCase (progress : Progress) (name label : String) (position : Option Nat) : Progress :=
  if progress.hasUseCase name then progress
  else
    let rectangle := position.bind fun position => progress.diagram.rectangles[position]?
    let enlist (rectangle : Rectangle) : Rectangle :=
      { rectangle with useCases := rectangle.useCases ++ [name] }
    { progress with diagram := { progress.diagram with
        useCases := progress.diagram.useCases ++
          [{ name, label, rectangle := rectangle.map Rectangle.label }]
        rectangles :=
          match position with
          | some position => progress.diagram.rectangles.modify position enlist
          | none => progress.diagram.rectangles } }

/-- Adds a relation, and what it names. -/
def addRelation (progress : Progress) (source target : String) (hasHead : Bool)
    (label : String) : Progress :=
  let sourced :=
    if !progress.hasActor source && !progress.hasUseCase source && looksLikeActor source then
      progress.addActor source source
    else progress
  let named :=
    if !sourced.hasUseCase target && !sourced.hasActor target then
      sourced.addUseCase target target none
    else sourced
  let relation : Relation :=
    { source, target, kind := if hasHead then .association else .link, label }
  { named with diagram := { named.diagram with
      relations := named.diagram.relations ++ [relation] } }

/-- Carries out a statement. -/
def apply (progress : Progress) : Statement → Progress
  | .openRectangle label => progress.openRectangle label
  | .actor name label => progress.addActor name label
  | .useCase name label => progress.addUseCase name label progress.openRectangles.head?
  | .relation source target hasHead label => progress.addRelation source target hasHead label

/-- Reads one more line. A closing brace counts where a rectangle is open. -/
def readLine (progress : Progress) (line : String) : Progress :=
  match Statement.openRectangle? line.toList with
  | some statement => progress.apply statement
  | none =>
    if line == "\x7d" && !progress.openRectangles.isEmpty then
      { progress with openRectangles := progress.openRectangles.tail }
    else
      match Statement.ofLine? line with
      | some statement => progress.apply statement
      | none => progress

end Progress

/-- Reads a use case diagram from its lines. -/
def ofLines (lines : List String) : UseCaseDiagram :=
  ((lines.filter fun line => !isDirective directivesWithHide line).foldl
    Progress.readLine {}).diagram

end Drafting.UseCaseDiagram
