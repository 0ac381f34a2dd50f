/-!
# Dialects

The eight kinds of diagrams that a source text can describe.
-/

namespace Drafting

/-- A kind of diagram. -/
inductive Dialect where
  | classes
  | sequence
  | activity
  | state
  | useCase
  | mindmap
  | entities
  | deployment
  deriving DecidableEq, Repr

namespace Dialect

/-- All dialects. -/
def all : List Dialect :=
  [classes, sequence, activity, state, useCase, mindmap, entities, deployment]

/-- The word for a dialect. -/
def text : Dialect → String
  | classes => "class"
  | sequence => "sequence"
  | activity => "activity"
  | state => "state"
  | useCase => "usecase"
  | mindmap => "mindmap"
  | entities => "er"
  | deployment => "deployment"

end Dialect

end Drafting
