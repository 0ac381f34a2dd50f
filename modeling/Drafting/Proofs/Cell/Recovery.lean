import Drafting.Cell.Basic
import Drafting.Proofs.Markup.Scanner

/-!
# Recovering cells from markup

A reader of a drawing takes the elements of its markup and looks up what it needs
among their attributes by name. What it can recover of a cell is everything but
the exact coordinates, of which it has the printed text.

The main statement is that the markup of any cells is read as exactly these
cells. Labels, styles and identifiers may hold any text, also text that looks like
markup: none of them can add, end or alter a cell.
-/

namespace Drafting.Cell

open Markup

/-- What a written cell draws, with coordinates as texts. -/
inductive WrittenShape where
  | box (x y width height : String)
  | link (source target : String)
  | line (startX startY stopX stopY : String)
  deriving DecidableEq, Repr

/-- A cell as it is written. -/
structure Written where
  id : String
  value : String
  style : String
  parent : String
  shape : WrittenShape
  deriving DecidableEq, Repr

/-- The written form of a shape. -/
def Shape.written : Shape → WrittenShape
  | .box place =>
    .box (Number.coordinateText place.x) (Number.coordinateText place.y)
      (Number.coordinateText place.width) (Number.coordinateText place.height)
  | .link source target => .link source target
  | .line start stop =>
    .line (Number.coordinateText start.x) (Number.coordinateText start.y)
      (Number.coordinateText stop.x) (Number.coordinateText stop.y)

/-- The written form of a cell. -/
def written (cell : Cell) : Written :=
  ⟨cell.id, cell.value, cell.style, cell.parent, cell.shape.written⟩

/-- The value of the first attribute of a given name. -/
def valueOf? (name : String) (attributes : List Attribute) : Option String :=
  (attributes.find? fun pair => pair.name == name).map Attribute.value

/-- The point with a given role among some elements. -/
def point? (role : String) (content : List Element) : Option (String × String) :=
  content.findSome? fun
    | .mk name attributes _ =>
      if name == "mxPoint" && valueOf? "as" attributes == some role then do
        return (← valueOf? "x" attributes, ← valueOf? "y" attributes)
      else none

/-- What a cell with given attributes draws, if `place` and `points` are those of
its geometry. -/
def shape? (attributes place : List Attribute) (points : List Element) : Option WrittenShape :=
  if valueOf? "vertex" attributes = some "1" then do
    return .box (← valueOf? "x" place) (← valueOf? "y" place) (← valueOf? "width" place)
      (← valueOf? "height" place)
  else if valueOf? "edge" attributes = some "1" then
    match valueOf? "source" attributes, valueOf? "target" attributes with
    | some source, some target => some (.link source target)
    | none, none => do
      let start ← point? "sourcePoint" points
      let stop ← point? "targetPoint" points
      return .line start.1 start.2 stop.1 stop.2
    | _, _ => none
  else none

/-- The cell that an element stands for. -/
def ofElement? : Element → Option Written
  | .mk name attributes [.mk inner place points] => do
    if name == "mxCell" && inner == "mxGeometry" then
      let shape ← shape? attributes place points
      return ⟨← valueOf? "id" attributes, ← valueOf? "value" attributes,
        ← valueOf? "style" attributes, ← valueOf? "parent" attributes, shape⟩
    else none
  | _ => none

/-- The cells in a text of markup. -/
def recover? (markup : String) : Option (List Written) := do
  (← elements? markup.toList).mapM ofElement?

/-- Attributes are named if their names are, whatever their values. -/
theorem named_of_names (names : List String) (named : names.all isName = true)
    (attributes : List Attribute) (same : attributes.map Attribute.name = names) :
    ∀ pair ∈ attributes, isName pair.name = true := by
  subst same
  simpa using named

/-- The names in the element of a cell are fixed, whatever its values are. -/
theorem element_wellNamed (cell : Cell) : WellNamed cell.element := by
  obtain ⟨id, value, style, parent, shape⟩ := cell
  have cell : isName "mxCell" = true := by decide
  have geometry : isName "mxGeometry" = true := by decide
  have point : isName "mxPoint" = true := by decide
  cases shape with
  | box place =>
    have own := named_of_names ["id", "value", "style", "vertex", "parent"] (by decide)
    have placed := named_of_names ["x", "y", "width", "height", "as"] (by decide)
    exact ⟨cell, own _ rfl, ⟨geometry, placed _ rfl, trivial⟩, trivial⟩
  | link source target =>
    have own := named_of_names ["id", "value", "style", "edge", "parent", "source", "target"]
      (by decide)
    have placed := named_of_names ["relative", "as"] (by decide)
    exact ⟨cell, own _ rfl, ⟨geometry, placed _ rfl, trivial⟩, trivial⟩
  | line start stop =>
    have own := named_of_names ["id", "value", "style", "edge", "parent"] (by decide)
    have placed := named_of_names ["relative", "as"] (by decide)
    have ends := named_of_names ["x", "y", "as"] (by decide)
    exact ⟨cell, own _ rfl, ⟨geometry, placed _ rfl, ⟨point, ends _ rfl, trivial⟩,
      ⟨point, ends _ rfl, trivial⟩, trivial⟩, trivial⟩

/-- The element of a cell stands for the written form of the cell. -/
theorem ofElement?_element (cell : Cell) : ofElement? cell.element = some cell.written := by
  obtain ⟨id, value, style, parent, shape⟩ := cell
  cases shape with
  | box place => rfl
  | link source target => rfl
  | line start stop => rfl

/-- The markup of cells holds the elements of the cells and nothing else. -/
theorem elements?_markupAll (cells : List Cell) :
    elements? (markupAll cells).toList = some (cells.map element) := by
  have named : AllWellNamed (cells.map element) := by
    induction cells with
    | nil => trivial
    | cons cell others inductionHypothesis => exact ⟨element_wellNamed cell, inductionHypothesis⟩
  have text : (markupAll cells).toList = Element.contentCharacters (cells.map element) := by
    rw [markupAll, String.toList_ofList, Element.contentCharacters_eq, List.flatMap_map]
  rw [text, elements?_contentCharacters _ named]

/-- Each of the elements of some cells stands for its cell. -/
theorem mapM_ofElement? (cells : List Cell) :
    (cells.map element).mapM ofElement? = some (cells.map written) := by
  induction cells with
  | nil => rfl
  | cons cell others inductionHypothesis =>
    simp [ofElement?_element, inductionHypothesis]

/-- From the markup of any cells exactly these cells are recovered, in order and
with all their texts and printed coordinates. So markup that is the same comes
from cells that are written the same. -/
theorem recover?_markupAll (cells : List Cell) :
    recover? (markupAll cells) = some (cells.map written) ∧
      ∀ others : List Cell, markupAll others = markupAll cells →
        others.map written = cells.map written := by
  have recovered (drawn : List Cell) : recover? (markupAll drawn) = some (drawn.map written) := by
    rw [recover?, elements?_markupAll]
    exact mapM_ofElement? drawn
  refine ⟨recovered cells, ?_⟩
  intro others same
  have both : some (others.map written) = some (cells.map written) := by
    rw [← recovered others, ← recovered cells, same]
  exact Option.some.inj both

end Drafting.Cell
