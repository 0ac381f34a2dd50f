import Drafting.Figure
import Drafting.Style
import Drafting.UseCaseDiagram.Basic

/-!
# Drawing use case diagrams

Actors stand below each other on the left and use cases on the right, in front of
the rectangles. Relations are plain lines; where an actor and a use case share a
name, the use case counts.
-/

namespace Drafting

namespace Rectangle

/-- The style of a rectangle. -/
def style : String :=
  "rounded=0;whiteSpace=wrap;html=1;fillColor=#f5f5f5;strokeColor=#666666;verticalAlign=top;" ++
  "fontStyle=1;spacingTop=5;"

/-- The figure of a rectangle, which is as high as its use cases require. -/
def figure (rectangle : Rectangle) : Figure :=
  .plain rectangle.label style
    (.ofInt 250 30 300 (max 200 (rectangle.useCases.length * 80 + 50)))

end Rectangle

namespace UseCaseDiagram

/-- The style of a use case. -/
def useCaseStyle : String :=
  "ellipse;whiteSpace=wrap;html=1;fillColor=#dae8fc;strokeColor=#6c8ebf;"

/-- The style of a relation. -/
def relationStyle : String := "endArrow=none;html=1;rounded=0;"

/-- The figures of the actors, from a given upper edge downwards. -/
def actorFigures (top : Int) : List Actor → List Figure
  | [] => []
  | actor :: others =>
    .keyed (.name actor.name) actor.label Style.actor (.ofInt 50 top 30 60) ::
      actorFigures (top + 100) others

/-- The figures of the use cases, from a given upper edge downwards. -/
def useCaseFigures (top : Int) : List UseCase → List Figure
  | [] => []
  | useCase :: others =>
    .keyed (.name useCase.name) useCase.label useCaseStyle (.ofInt 300 top 120 50) ::
      useCaseFigures (top + 80) others

/-- The figures of a use case diagram. -/
def figures (diagram : UseCaseDiagram) : List Figure :=
  diagram.rectangles.map Rectangle.figure ++
  actorFigures 100 diagram.actors ++
  useCaseFigures 50 diagram.useCases ++
  diagram.relations.map fun relation =>
    .link relation.label relationStyle (.name relation.source) (.name relation.target)

end UseCaseDiagram

end Drafting
