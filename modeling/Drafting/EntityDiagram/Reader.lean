import Drafting.Directive
import Drafting.EntityDiagram.Statement

/-!
# Reading entity relationship diagrams

The reader goes through the lines once and keeps the entity it is in. There, a
line is an attribute unless it holds a separator of two dashes or two dots. A
relationship adds the entities it names where they are not known yet.
-/

namespace Drafting.EntityDiagram

open Text

/-- What has been read, and the entity whose body is open, by its position. -/
structure Progress where
  diagram : EntityDiagram := {}
  current : Option Nat := none
  deriving DecidableEq, Repr

namespace Progress

/-- Adds an entity. -/
def addEntity (progress : Progress) (name label : String) : Progress :=
  let entity : Entity := { id := progress.diagram.entities.length, name, label }
  { progress with diagram := { progress.diagram with
      entities := progress.diagram.entities ++ [entity] } }

/-- Adds an entity that a relationship names, unless it is known. -/
def ensure (progress : Progress) (name : String) : Progress :=
  if progress.diagram.entities.any fun entity => entity.name == name then progress
  else progress.addEntity name name

/-- Adds an attribute to the entity at a position. -/
def addAttribute (progress : Progress) (position : Nat) (column : EntityAttribute) : Progress :=
  let extend (entity : Entity) : Entity :=
    { entity with attributes := entity.attributes ++ [column] }
  { progress with diagram := { progress.diagram with
      entities := progress.diagram.entities.modify position extend } }

/-- Reads a line as a relationship, if it is one. -/
def readRelationship (progress : Progress) (line : String) : Progress :=
  match relationship? line.toList with
  | some relationship =>
    let named := (progress.ensure relationship.source).ensure relationship.target
    { named with diagram := { named.diagram with
        relationships := named.diagram.relationships ++ [relationship] } }
  | none => progress

/-- Whether a line in the body of an entity is an attribute. -/
def isAttributeLine (line : String) : Bool :=
  !line.isEmpty && !occursIn "--" line.toList && !occursIn ".." line.toList

/-- Reads one more line. -/
def readLine (progress : Progress) (line : String) : Progress :=
  match head? line.toList with
  | some (name, label) =>
    { progress.addEntity (String.ofList name) (String.ofList label) with
      current := some progress.diagram.entities.length }
  | none =>
    if line == "\x7d" then { progress with current := none }
    else
      match progress.current with
      | some position =>
        if isAttributeLine line then
          match attribute? line with
          | some column => progress.addAttribute position column
          | none => progress
        else progress.readRelationship line
      | none => progress.readRelationship line

end Progress

/-- Reads an entity relationship diagram from its lines. -/
def ofLines (lines : List String) : EntityDiagram :=
  ((lines.filter fun line => !beginsWithAny directivesWithHide line.toList).foldl
    Progress.readLine {}).diagram

end Drafting.EntityDiagram
