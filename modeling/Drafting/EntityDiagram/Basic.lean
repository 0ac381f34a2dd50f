/-!
# Entity relationship diagrams

Entities with their attributes, and relationships between them.
-/

namespace Drafting

/-- An attribute of an entity. -/
structure EntityAttribute where
  name : String
  type : String := ""
  isPrimaryKey : Bool := false
  deriving DecidableEq, Repr

/-- The line that shows an attribute. -/
def EntityAttribute.display (column : EntityAttribute) : String :=
  (if column.isPrimaryKey then "PK " else "") ++ column.name ++
    if column.type.isEmpty then "" else ": " ++ column.type

/-- An entity. -/
structure Entity where
  id : Int
  name : String
  label : String
  attributes : List EntityAttribute := []
  deriving DecidableEq, Repr

/-- A relationship between two entities. -/
structure Relationship where
  source : String
  target : String
  label : String := ""
  sourceCardinality : String := "1"
  targetCardinality : String := "n"
  deriving DecidableEq, Repr

/-- An entity relationship diagram. -/
structure EntityDiagram where
  entities : List Entity := []
  relationships : List Relationship := []
  deriving DecidableEq, Repr

end Drafting
