import Drafting.Relation

/-!
# Class diagrams

Classes with attributes and methods, actors, and relations between them.
-/

namespace Drafting

/-- The four kinds of boxes that hold members. -/
inductive ClassKind where
  | concrete
  | interface
  | abstractClass
  | enumeration
  deriving DecidableEq, Repr

namespace ClassKind

/-- All kinds. -/
def all : List ClassKind := [concrete, interface, abstractClass, enumeration]

/-- The keyword of a kind. -/
def text : ClassKind → String
  | concrete => "class"
  | interface => "interface"
  | abstractClass => "abstract"
  | enumeration => "enum"

end ClassKind

/-- An attribute or a method of a class. The visibility is one of the signs
`+`, `-`, `#` and `~` where a member was read from a line. -/
structure ClassMember where
  name : String
  type : String := ""
  visibility : String := "+"
  isMethod : Bool := false
  deriving DecidableEq, Repr

/-- The line that shows a member: its sign, its name and, if it has one, its
type. -/
def ClassMember.display (member : ClassMember) : String :=
  member.visibility ++ " " ++ member.name ++
    if member.type.isEmpty then "" else ": " ++ member.type

/-- A class with its members. -/
structure ClassBox where
  name : String
  kind : ClassKind := .concrete
  attributes : List ClassMember := []
  methods : List ClassMember := []
  deriving DecidableEq, Repr

/-- Adds a member behind those of its sort. -/
def ClassBox.addMember (box : ClassBox) (member : ClassMember) : ClassBox :=
  if member.isMethod then { box with methods := box.methods ++ [member] }
  else { box with attributes := box.attributes ++ [member] }

/-- A class diagram. -/
structure ClassDiagram where
  classes : List ClassBox := []
  relations : List Relation := []
  actors : List Actor := []
  deriving DecidableEq, Repr

end Drafting
