import Drafting.ActivityDiagram.Basic
import Drafting.ClassDiagram.Basic
import Drafting.DeploymentDiagram.Basic
import Drafting.Dialect.Basic
import Drafting.EntityDiagram.Basic
import Drafting.Mindmap.Basic
import Drafting.SequenceDiagram.Basic
import Drafting.StateDiagram.Basic
import Drafting.UseCaseDiagram.Basic

/-!
# Diagrams

A diagram of any dialect.
-/

namespace Drafting

/-- A diagram of one of the eight dialects. -/
inductive Diagram where
  | classes (diagram : ClassDiagram)
  | sequence (diagram : SequenceDiagram)
  | activity (diagram : ActivityDiagram)
  | state (diagram : StateDiagram)
  | useCase (diagram : UseCaseDiagram)
  | mindmap (map : Mindmap)
  | entities (diagram : EntityDiagram)
  | deployment (diagram : DeploymentDiagram)
  deriving DecidableEq, Repr

/-- The dialect of a diagram. -/
def Diagram.dialect : Diagram → Dialect
  | .classes _ => .classes
  | .sequence _ => .sequence
  | .activity _ => .activity
  | .state _ => .state
  | .useCase _ => .useCase
  | .mindmap _ => .mindmap
  | .entities _ => .entities
  | .deployment _ => .deployment

end Drafting
