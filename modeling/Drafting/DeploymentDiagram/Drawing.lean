import Drafting.DeploymentDiagram.Basic
import Drafting.Figure
import Drafting.Grid

/-!
# Drawing deployment diagrams

Nodes are placed on a grid of four columns, with shapes for databases, clouds
and artifacts and boxes for all other kinds. Connections are links.
-/

namespace Drafting

namespace DeploymentNode

/-- The style and the width of a kind. -/
def shape (kind : String) : String × Int :=
  if kind == "database" then
    ("shape=cylinder3;whiteSpace=wrap;html=1;boundedLbl=1;backgroundOutline=1;size=15;" ++
      "fillColor=#dae8fc;strokeColor=#6c8ebf;", 120)
  else if kind == "cloud" then
    ("ellipse;shape=cloud;whiteSpace=wrap;html=1;fillColor=#dae8fc;strokeColor=#6c8ebf;", 140)
  else if kind == "artifact" then
    ("shape=document;whiteSpace=wrap;html=1;boundedLbl=1;fillColor=#fff2cc;" ++
      "strokeColor=#d6b656;", 120)
  else ("rounded=0;whiteSpace=wrap;html=1;fillColor=#dae8fc;strokeColor=#6c8ebf;", 120)

/-- The figure of a node. -/
def figure (node : DeploymentNode) (x y : Int) : Figure :=
  let (style, width) := shape node.kind
  .keyed (.name node.name) node.label style (.ofInt x y width 80)

end DeploymentNode

namespace DeploymentDiagram

/-- The grid of a deployment diagram. -/
def grid : Grid := ⟨4, 50, 200⟩

/-- The style of a connection. -/
def connectionStyle (connection : Connection) : String :=
  "endArrow=classic;html=1;rounded=0;" ++ if connection.isDashed then "dashed=1;" else ""

/-- The figures of a deployment diagram. -/
def figures (diagram : DeploymentDiagram) : List Figure :=
  ((grid.spread (fun _ => 120) (grid.start 50) diagram.nodes).map fun (node, cursor) =>
    node.figure cursor.x cursor.y) ++
  diagram.connections.map fun connection =>
    .link connection.label (connectionStyle connection) (.name connection.source)
      (.name connection.target)

end DeploymentDiagram

end Drafting
