/-!
# Relations and actors

Class diagrams and use case diagrams both draw actors and relate named nodes.
A relation may name a node that does not exist; it is then kept in the diagram
and left out of the drawing.
-/

namespace Drafting

/-- How two nodes are related. A link is a line without a head. -/
inductive RelationKind where
  | inheritance
  | implementation
  | composition
  | aggregation
  | association
  | dependency
  | link
  deriving DecidableEq, Repr

namespace RelationKind

/-- All kinds. -/
def all : List RelationKind :=
  [inheritance, implementation, composition, aggregation, association, dependency, link]

/-- The word for a kind in an exchanged diagram. -/
def text : RelationKind → String
  | inheritance => "extends"
  | implementation => "implements"
  | composition => "composition"
  | aggregation => "aggregation"
  | association => "association"
  | dependency => "dependency"
  | link => "link"

end RelationKind

/-- A relation from one named node to another. -/
structure Relation where
  source : String
  target : String
  kind : RelationKind := .association
  label : String := ""
  deriving DecidableEq, Repr

/-- A person outside the system. -/
structure Actor where
  name : String
  label : String
  deriving DecidableEq, Repr

end Drafting
