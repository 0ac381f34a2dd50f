import Drafting.ActivityDiagram.Reader
import Drafting.ClassDiagram.Reader
import Drafting.DeploymentDiagram.Reader
import Drafting.Diagram.Basic
import Drafting.Dialect.Detection
import Drafting.EntityDiagram.Reader
import Drafting.Mindmap.Reader
import Drafting.SequenceDiagram.Reader
import Drafting.StateDiagram.Reader
import Drafting.UseCaseDiagram.Reader

/-!
# Reading diagrams

Every dialect has a reader for the lines of a source. Readers ignore what they
do not know; only a participant of an unknown kind is an error.
-/

namespace Drafting.Diagram

/-- Reads a diagram of a given dialect from its lines. -/
def ofLines (dialect : Dialect) (lines : List String) : Except UnknownWord Diagram :=
  match dialect with
  | .classes => .ok (.classes (ClassDiagram.ofLines lines))
  | .sequence => (SequenceDiagram.ofLines lines).map .sequence
  | .activity => .ok (.activity (ActivityDiagram.ofLines lines))
  | .state => .ok (.state (StateDiagram.ofLines lines))
  | .useCase => .ok (.useCase (UseCaseDiagram.ofLines lines))
  | .mindmap => .ok (.mindmap (Mindmap.ofLines lines))
  | .entities => .ok (.entities (EntityDiagram.ofLines lines))
  | .deployment => .ok (.deployment (DeploymentDiagram.ofLines lines))

/-- Reads a diagram from a source text, in the dialect that is detected. -/
def ofText (text : String) : Except UnknownWord Diagram :=
  let lines := Text.normalizedLines text
  ofLines (Dialect.ofSource text lines) lines

end Drafting.Diagram
