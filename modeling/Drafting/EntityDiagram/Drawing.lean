import Drafting.EntityDiagram.Basic
import Drafting.Figure
import Drafting.Grid
import Drafting.Style

/-!
# Drawing entity relationship diagrams

Entities are placed on a grid of three columns, each a box with a row for every
attribute. Primary keys are marked and underlined. Relationships are links.
-/

namespace Drafting

namespace Entity

/-- The width of every entity. -/
def width : Int := 180

/-- The height of an entity grows with the number of its attributes. -/
def height (entity : Entity) : Int := 30 + entity.attributes.length * 20

/-- The rows of some attributes, one below the other. -/
def attributeRows (top : Int) : List EntityAttribute → List Row
  | [] => []
  | column :: others =>
    let style := if column.isPrimaryKey then Style.underlinedRow else Style.row
    ⟨column.display, style, .ofInt 0 top width 20⟩ :: attributeRows (top + 20) others

/-- The figure of an entity. -/
def figure (entity : Entity) (x y : Int) : Figure :=
  .node (some (.name entity.name)) entity.label (Style.stackedBox .blue "0")
    (.ofInt x y width entity.height) none (attributeRows 26 entity.attributes)

end Entity

namespace EntityDiagram

/-- The grid of an entity relationship diagram. -/
def grid : Grid := ⟨3, 50, 250⟩

/-- The style of a relationship. -/
def relationshipStyle : String := "endArrow=ERone;startArrow=ERmany;html=1;rounded=0;"

/-- The figures of an entity relationship diagram. -/
def figures (diagram : EntityDiagram) : List Figure :=
  ((grid.spread (fun entity : Entity => entity.height + 80) (grid.start 50)
    diagram.entities).map fun (entity, cursor) => entity.figure cursor.x cursor.y) ++
  diagram.relationships.map fun relationship =>
    .link relationship.label relationshipStyle (.name relationship.source)
      (.name relationship.target)

end EntityDiagram

end Drafting
