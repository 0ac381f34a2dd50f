import Drafting.C4.Basic
import Drafting.Figure
import Drafting.Style
import Drafting.Text.Scan

/-!
# Drawing architecture diagrams

The elements of one depth stand in a row, from left to right in the order in
which the forest is walked. Relations are links between names, and the last
element of a name counts.
-/

namespace Drafting.C4

/-- An element with its depth and the place of its box. -/
structure Placed where
  element : Element
  depth : Nat
  x : Int
  y : Int
  width : Int
  height : Int
  deriving DecidableEq, Repr

/-- The size of a kind. -/
def sizeOf (kind : String) : Int × Int :=
  if kind == "System" then (220, 140)
  else if kind == "Container" then (200, 120)
  else if kind == "Component" then (180, 100)
  else (160, 90)

/-- The elements of one depth. -/
def rowAt (elements : List (Element × Nat)) (depth : Nat) : List Element :=
  (elements.filter fun pair => pair.2 == depth).map Prod.fst

/-- The places of a row, where `column` elements stand before it. -/
def placeRow (depth : Nat) (column : Int) : List Element → List Placed
  | [] => []
  | element :: others =>
    let (width, height) := sizeOf element.kind
    { element, depth, x := 40 + column * 260, y := 40 + depth * 200, width, height } ::
      placeRow depth (column + 1) others

/-- The places of the elements of a forest, row by row. There are no more rows
than elements. -/
def layout (trees : List Tree) : List Placed :=
  let elements := Tree.flattenAll 0 trees
  (List.range elements.length).flatMap fun depth => placeRow depth 0 (rowAt elements depth)

/-- The colours of a kind, by what its name begins with. -/
def paletteOf (kind : String) : Palette :=
  if (Text.expect "System" kind.toList).isSome then .green
  else if (Text.expect "Container" kind.toList).isSome then .blue
  else .yellow

/-- The style of a relation. -/
def relationStyle : String := "endArrow=block;endSize=12;html=1;rounded=0;"

/-- The figure of an element. -/
def Placed.figure (placed : Placed) : Figure :=
  .keyed (.name placed.element.name) placed.element.value
    (Style.roundedBox (paletteOf placed.element.kind))
    (.ofInt placed.x placed.y placed.width placed.height)

/-- The figures of placed elements and relations. -/
def figures (placed : List Placed) (relations : List Relation) : List Figure :=
  placed.map Placed.figure ++
  relations.map fun relation =>
    .link relation.value relationStyle (.name relation.source) (.name relation.target)

end Drafting.C4
