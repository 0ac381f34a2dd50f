import Drafting.Canvas

/-!
# Figures

A layout decides what is drawn where, before any identifier is issued. Its
result is a list of figures: boxes with rows inside them, links between keys,
and lines. Drawing the list on a canvas gives the cells.

Since figures hold no identifier, the stem of the identifiers cannot influence
what is drawn or where.
-/

namespace Drafting

/-- A box inside another box, placed relative to it. -/
structure Row where
  value : String
  style : String
  place : Box
  deriving DecidableEq, Repr

/-- What a layout puts on the page. -/
inductive Figure where
  | node (key : Option Key) (value style : String) (place : Box) (anchor : Option Point)
      (rows : List Row)
  | link (value style : String) (source target : Key)
  | line (value style : String) (start stop : Point)
  deriving DecidableEq, Repr

namespace Figure

/-- A box that is remembered under a key by its corner. -/
def keyed (key : Key) (value style : String) (place : Box) : Figure :=
  .node (some key) value style place none []

/-- A box that no link can reach. -/
def plain (value style : String) (place : Box) : Figure := .node none value style place none []

end Figure

namespace Canvas

/-- Draws the rows of a box. -/
def drawRows (parent : String) (canvas : Canvas) (rows : List Row) : Canvas :=
  rows.foldl (fun canvas row => (canvas.vertex row.value row.style row.place parent none none).2)
    canvas

/-- Draws one figure. -/
def draw (canvas : Canvas) : Figure → Canvas
  | .node key value style place anchor rows =>
    let (id, drawn) := canvas.vertex value style place Cell.layerId key anchor
    drawn.drawRows id rows
  | .link value style source target => (canvas.edge value style source target).2
  | .line value style start stop => (canvas.line value style start stop).2

/-- Draws figures one after the other. -/
def drawAll (canvas : Canvas) (figures : List Figure) : Canvas := figures.foldl draw canvas

end Canvas

/-- A coordinate of the drawing is too large to be written. -/
inductive DrawingError where
  | coordinateOutOfRange
  deriving DecidableEq, Repr

/-- The cells of a list of figures. -/
def cellsOf (stem : String) (figures : List Figure) : List Cell :=
  ((Canvas.blank stem).drawAll figures).cells

/-- The markup of cells, if all their coordinates can be written. -/
def markupOf (cells : List Cell) : Except DrawingError String :=
  if cells.all Cell.fits then .ok (Cell.markupAll cells) else .error .coordinateOutOfRange

end Drafting
