import Drafting.ActivityDiagram.Drawing
import Drafting.ClassDiagram.Drawing
import Drafting.DeploymentDiagram.Drawing
import Drafting.Diagram.Basic
import Drafting.EntityDiagram.Drawing
import Drafting.Mindmap.Drawing
import Drafting.SequenceDiagram.Drawing
import Drafting.StateDiagram.Drawing
import Drafting.UseCaseDiagram.Drawing

/-!
# Drawing diagrams

Every dialect has a layout. The cells of a diagram are those of its figures,
with the identifiers of a given stem.
-/

namespace Drafting.Diagram

/-- The figures of a diagram. -/
def figures : Diagram → List Figure
  | .classes diagram => diagram.figures
  | .sequence diagram => diagram.figures
  | .activity diagram => diagram.figures
  | .state diagram => diagram.figures
  | .useCase diagram => diagram.figures
  | .mindmap map => map.figures
  | .entities diagram => diagram.figures
  | .deployment diagram => diagram.figures

/-- The cells of a diagram. -/
def cells (stem : String) (diagram : Diagram) : List Cell := cellsOf stem diagram.figures

/-- The markup of a diagram. -/
def markup (stem : String) (diagram : Diagram) : Except DrawingError String :=
  markupOf (diagram.cells stem)

end Drafting.Diagram
