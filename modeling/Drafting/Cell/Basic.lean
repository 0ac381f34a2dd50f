import Drafting.Markup
import Drafting.Number.Coordinate

/-!
# Cells

A drawing is a list of cells: boxes with a place of their own, links between two
boxes, and lines between two points. Each has an identifier, a label, a style
and the identifier of the cell it belongs to.

Coordinates are exact rational numbers. A cell fits if each of its coordinates
can be held by a reader that keeps coordinates as floating-point numbers; only
then is it written.
-/

namespace Drafting

/-- A point of the page; the second coordinate grows downwards. -/
structure Point where
  x : Rat
  y : Rat
  deriving DecidableEq, Repr

/-- A rectangle, given by its corner at the top left and its size. -/
structure Box where
  x : Rat
  y : Rat
  width : Rat
  height : Rat
  deriving DecidableEq, Repr

/-- The point with integral coordinates. -/
def Point.ofInt (x y : Int) : Point := ⟨x, y⟩

/-- The rectangle with integral coordinates. -/
def Box.ofInt (x y width height : Int) : Box := ⟨x, y, width, height⟩

/-- The corner at the top left. -/
def Box.corner (box : Box) : Point := ⟨box.x, box.y⟩

namespace Cell

/-- The identifier of the root cell. -/
def rootId : String := "0"

/-- The identifier of the layer on which all cells lie that belong to no box. -/
def layerId : String := "1"

/-- What a cell draws. -/
inductive Shape where
  | box (place : Box)
  | link (source target : String)
  | line (start stop : Point)
  deriving DecidableEq, Repr

end Cell

/-- A cell of a drawing. -/
structure Cell where
  id : String
  value : String
  style : String
  parent : String
  shape : Cell.Shape
  deriving DecidableEq, Repr

namespace Cell

/-- The coordinates of a cell in the order in which they are written. -/
def coordinates (cell : Cell) : List Rat :=
  match cell.shape with
  | .box place => [place.x, place.y, place.width, place.height]
  | .link _ _ => []
  | .line start stop => [start.x, start.y, stop.x, stop.y]

/-- Whether every coordinate has a nearest floating-point number. -/
def fits (cell : Cell) : Bool := cell.coordinates.all Number.Real64.fits

/-- The attribute that holds a coordinate. -/
def coordinateAttribute (name : String) (value : Rat) : Attribute :=
  ⟨name, Number.coordinateText value⟩

/-- The place of a cell, as an element inside it. -/
def Shape.geometry : Shape → Element
  | .box place =>
    .mk "mxGeometry"
      [coordinateAttribute "x" place.x, coordinateAttribute "y" place.y,
        coordinateAttribute "width" place.width, coordinateAttribute "height" place.height,
        ⟨"as", "geometry"⟩] []
  | .link _ _ => .mk "mxGeometry" [⟨"relative", "1"⟩, ⟨"as", "geometry"⟩] []
  | .line start stop =>
    .mk "mxGeometry" [⟨"relative", "1"⟩, ⟨"as", "geometry"⟩]
      [.mk "mxPoint"
          [coordinateAttribute "x" start.x, coordinateAttribute "y" start.y,
            ⟨"as", "sourcePoint"⟩] [],
        .mk "mxPoint"
          [coordinateAttribute "x" stop.x, coordinateAttribute "y" stop.y,
            ⟨"as", "targetPoint"⟩] []]

/-- The attribute that tells boxes from links and lines. -/
def Shape.role : Shape → Attribute
  | .box _ => ⟨"vertex", "1"⟩
  | .link _ _ => ⟨"edge", "1"⟩
  | .line _ _ => ⟨"edge", "1"⟩

/-- The attributes that name the two ends of a link. -/
def Shape.ends : Shape → List Attribute
  | .link source target => [⟨"source", source⟩, ⟨"target", target⟩]
  | _ => []

/-- The element that stands for a cell. -/
def element (cell : Cell) : Element :=
  .mk "mxCell"
    ([⟨"id", cell.id⟩, ⟨"value", cell.value⟩, ⟨"style", cell.style⟩, cell.shape.role,
      ⟨"parent", cell.parent⟩] ++ cell.shape.ends)
    [cell.shape.geometry]

/-- The markup of a cell. -/
def markup (cell : Cell) : String := String.ofList cell.element.characters

/-- The markup of a list of cells, one after the other. -/
def markupAll (cells : List Cell) : String :=
  String.ofList (cells.flatMap fun cell => cell.element.characters)

end Cell

end Drafting
