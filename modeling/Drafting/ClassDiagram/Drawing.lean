import Drafting.ClassDiagram.Basic
import Drafting.Figure
import Drafting.Grid
import Drafting.Style

/-!
# Drawing class diagrams

Classes and, behind them, actors are placed on one grid of four columns. A class
is a box with a row for each member; a divider stands between attributes and
methods where there are both. Relations are links between the named nodes, and
the last node of a name counts.
-/

namespace Drafting

/-- The colours of a class. -/
def ClassKind.palette : ClassKind → Palette
  | .concrete => .blue
  | .interface => .green
  | .abstractClass => .yellow
  | .enumeration => .purple

/-- The line and the head of a relation. A link is drawn as an association. -/
def RelationKind.style : RelationKind → String
  | .inheritance => "endArrow=block;endSize=16;endFill=0;html=1;rounded=0;"
  | .implementation => "endArrow=block;endSize=16;endFill=0;html=1;rounded=0;dashed=1;"
  | .composition => "endArrow=diamondThin;endFill=1;endSize=24;html=1;rounded=0;"
  | .aggregation => "endArrow=diamondThin;endFill=0;endSize=24;html=1;rounded=0;"
  | .association => "endArrow=open;endSize=12;html=1;rounded=0;"
  | .dependency => "endArrow=open;endSize=12;html=1;rounded=0;dashed=1;"
  | .link => "endArrow=open;endSize=12;html=1;rounded=0;"

namespace ClassBox

/-- The width of every class. -/
def width : Int := 160

/-- The height of a class grows with the number of its members. -/
def height (box : ClassBox) : Int := 60 + (box.attributes.length + box.methods.length) * 20

/-- The rows of some members, one below the other. -/
def memberRows (top : Int) : List ClassMember → List Row
  | [] => []
  | member :: others =>
    ⟨member.display, Style.row, .ofInt 0 top width 20⟩ :: memberRows (top + 20) others

/-- The divider below the attributes, where there are methods too, and the place
of the first method. -/
def dividerRows (box : ClassBox) (top : Int) : List Row × Int :=
  if box.attributes.isEmpty || box.methods.isEmpty then ([], top)
  else ([⟨"", Style.divider, .ofInt 0 top width 8⟩], top + 8)

/-- The rows of a class: attributes, divider, methods. -/
def rows (box : ClassBox) : List Row :=
  let belowAttributes : Int := 26 + box.attributes.length * 20
  let (divider, methodTop) := box.dividerRows belowAttributes
  memberRows 26 box.attributes ++ divider ++ memberRows methodTop box.methods

/-- The figure of a class. -/
def figure (box : ClassBox) (x y : Int) : Figure :=
  .node (some (.name box.name)) box.name (Style.stackedBox box.kind.palette "1")
    (.ofInt x y width box.height) none box.rows

end ClassBox

/-- The figure of an actor. -/
def Actor.figure (actor : Actor) (x y : Int) : Figure :=
  .keyed (.name actor.name) actor.label Style.actor (.ofInt x y 30 60)

namespace ClassDiagram

/-- What takes a place on the grid. -/
inductive Item where
  | box (inner : ClassBox)
  | actor (person : Actor)

/-- The items in the order in which they are placed. -/
def items (diagram : ClassDiagram) : List Item :=
  diagram.classes.map .box ++ diagram.actors.map .actor

/-- How far the next row lies below an item that ends a row. -/
def Item.drop : Item → Int
  | .box inner => inner.height + 60
  | .actor _ => 120

/-- The figure of an item. -/
def Item.figure (item : Item) (x y : Int) : Figure :=
  match item with
  | .box inner => inner.figure x y
  | .actor person => person.figure x y

/-- The grid of a class diagram. -/
def grid : Grid := ⟨4, 40, 200⟩

/-- The figures of a class diagram. -/
def figures (diagram : ClassDiagram) : List Figure :=
  ((grid.spread Item.drop (grid.start 40) diagram.items).map fun (item, cursor) =>
    item.figure cursor.x cursor.y) ++
  diagram.relations.map fun relation =>
    .link relation.label relation.kind.style (.name relation.source) (.name relation.target)

end ClassDiagram

end Drafting
