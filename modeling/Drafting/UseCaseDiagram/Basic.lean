import Drafting.Relation

/-!
# Use case diagrams

Actors, use cases and the relations between them. Use cases may stand inside
rectangles, which hold the names of those declared in them.
-/

namespace Drafting

/-- A use case, with the label of the rectangle around it. -/
structure UseCase where
  name : String
  label : String
  rectangle : Option String := none
  deriving DecidableEq, Repr

/-- A rectangle with the names of the use cases declared in it. -/
structure Rectangle where
  label : String
  useCases : List String := []
  deriving DecidableEq, Repr

/-- A use case diagram. -/
structure UseCaseDiagram where
  actors : List Actor := []
  useCases : List UseCase := []
  relations : List Relation := []
  rectangles : List Rectangle := []
  deriving DecidableEq, Repr

end Drafting
