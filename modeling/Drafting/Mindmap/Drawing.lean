import Drafting.Figure
import Drafting.Grid
import Drafting.Mindmap.Basic
import Drafting.Style

/-!
# Drawing mind maps

Roots stand in the middle of the page. The other nodes fan out to both sides,
the farther the deeper their level, and on each side one below the other in the
order of the source. Each node is linked to its parent as soon as it is drawn.
-/

namespace Drafting

namespace MindmapNode

/-- The middle of the page. -/
def center : Int × Int := (400, 300)

/-- The height of every node. -/
def height : Int := 40

/-- The width of a node. -/
def width (node : MindmapNode) : Int := textWidth node.text 100

/-- The colours of a level. -/
def palette (level : Int) : Palette :=
  if level = 1 then .purple else if level = 2 then .blue else .green

/-- The style of the link to a parent. -/
def linkStyle : String := "endArrow=none;html=1;rounded=1;curved=1;strokeColor=#666666;"

/-- The upper edges of the next nodes on the two sides. -/
structure Edges where
  right : Int
  left : Int
  deriving DecidableEq, Repr

/-- The corner of a node, and the edges behind it. -/
def place (node : MindmapNode) (edges : Edges) : Int × Int × Edges :=
  let offset := (node.level - 1) * 180
  if node.level = 1 then
    (center.1 - node.width / 2, center.2 - height / 2, edges)
  else
    match node.side with
    | .right => (center.1 + offset, edges.right, { edges with right := edges.right + 60 })
    | .left =>
      (center.1 - offset - node.width, edges.left, { edges with left := edges.left + 60 })

/-- The figures of a node at a given corner: the node and the link to its
parent. -/
def figures (node : MindmapNode) (x y : Int) : List Figure :=
  .node (some (.number node.id)) node.text (Style.roundedBox (palette node.level))
    (.ofInt x y node.width height)
    (some (.ofInt (x + node.width / 2) (y + height / 2))) [] ::
  match node.parent with
  | some parent => [.link "" linkStyle (.number parent) (.number node.id)]
  | none => []

end MindmapNode

namespace Mindmap

/-- The figures of some nodes, given the edges at which they begin. -/
def figuresFrom (edges : MindmapNode.Edges) : List MindmapNode → List Figure
  | [] => []
  | node :: others =>
    let (x, y, edges) := node.place edges
    node.figures x y ++ figuresFrom edges others

/-- The figures of a mind map. -/
def figures (map : Mindmap) : List Figure :=
  figuresFrom ⟨MindmapNode.center.2 - 100, MindmapNode.center.2 - 100⟩ map.nodes

end Mindmap

end Drafting
