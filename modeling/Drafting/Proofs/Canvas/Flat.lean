import Drafting.Proofs.Canvas.Links

/-!
# Flat drawings

Some drawings hold neither links nor rows. Then every figure is drawn as one cell, whatever
stands on the canvas, and the cell is known from the figure but for its identifier.

Cells are compared by height, too: a cell lies above another one if every point that is
written for it is higher up on the page.
-/

namespace Drafting

namespace Figure

/-- Whether a figure is drawn as one cell on every canvas. -/
def isFlat : Figure → Bool
  | .node _ _ _ _ _ rows => rows.isEmpty
  | .link .. => false
  | .line .. => true

/-- What the box of a figure is apart from its identifier. -/
def box? : Figure → Option (String × String × String × Cell.Shape)
  | .node _ value style place _ _ => some (value, style, Cell.layerId, .box place)
  | _ => none

/-- What the line of a figure is apart from its identifier. -/
def line? : Figure → Option (String × String × String × Cell.Shape)
  | .line value style start stop => some (value, style, Cell.layerId, .line start stop)
  | _ => none

end Figure

/-- A flat figure adds its box or its line, and nothing else. -/
theorem Canvas.draw_flat (canvas : Canvas) {figure : Figure} (flat : figure.isFlat = true) :
    ∃ cell, (canvas.draw figure).cells = canvas.cells ++ [cell] ∧
      figure.box? = (if cell.isBox then some cell.body else none) ∧
      figure.line? = (if cell.isBox then none else some cell.body) := by
  cases figure with
  | node key value style place anchor rows =>
    obtain rfl : rows = [] := List.isEmpty_iff.mp flat
    exact ⟨_, rfl, rfl, rfl⟩
  | link value style source target => contradiction
  | line value style start stop => exact ⟨_, rfl, rfl, rfl⟩

/-- Flat figures add their boxes and their lines, each in order. -/
theorem Canvas.drawAll_flat (canvas : Canvas) {figures : List Figure}
    (flat : ∀ figure ∈ figures, figure.isFlat = true) :
    ((canvas.drawAll figures).cells.filter Cell.isBox).map Cell.body =
        (canvas.cells.filter Cell.isBox).map Cell.body ++ figures.filterMap Figure.box? ∧
      ((canvas.drawAll figures).cells.filter fun cell => !cell.isBox).map Cell.body =
        (canvas.cells.filter fun cell => !cell.isBox).map Cell.body ++
          figures.filterMap Figure.line? := by
  induction figures generalizing canvas with
  | nil => exact ⟨(List.append_nil _).symm, (List.append_nil _).symm⟩
  | cons figure others inductionHypothesis =>
    obtain ⟨cell, cells, box, line⟩ := canvas.draw_flat (flat figure List.mem_cons_self)
    obtain ⟨boxes, lines⟩ := inductionHypothesis (canvas.draw figure)
      fun other member => flat other (List.mem_cons_of_mem _ member)
    have whole : canvas.drawAll (figure :: others) = (canvas.draw figure).drawAll others := rfl
    rw [whole, boxes, lines, cells, List.filterMap_cons, List.filterMap_cons, box, line]
    cases kind : cell.isBox <;> simp [List.filter_append, kind]

/-- The boxes of a flat drawing are those of its figures. -/
theorem cellsOf_boxes (stem : String) {figures : List Figure}
    (flat : ∀ figure ∈ figures, figure.isFlat = true) :
    ((cellsOf stem figures).filter Cell.isBox).map Cell.body = figures.filterMap Figure.box? :=
  (Canvas.drawAll_flat (.blank stem) flat).1

/-- So are its lines. -/
theorem cellsOf_lines (stem : String) {figures : List Figure}
    (flat : ∀ figure ∈ figures, figure.isFlat = true) :
    ((cellsOf stem figures).filter fun cell => !cell.isBox).map Cell.body =
      figures.filterMap Figure.line? :=
  (Canvas.drawAll_flat (.blank stem) flat).2

namespace Cell

/-- The heights that are written for a shape: the upper and the lower edge of a box, or
those of the two ends of a line. -/
def Shape.heights : Shape → List Rat
  | .box place => [place.y, place.y + place.height]
  | .link _ _ => []
  | .line start stop => [start.y, stop.y]

/-- A cell lies strictly above another one. -/
def Above (upper lower : Cell) : Prop :=
  ∀ high ∈ upper.shape.heights, ∀ low ∈ lower.shape.heights, high < low

/-- The heights of a box with integral coordinates. -/
theorem heights_box (x y width height : Int) :
    (Shape.box (.ofInt x y width height)).heights =
      [y, y + height].map fun edge : Int => (edge : Rat) := by
  rw [List.map_cons, List.map_singleton, Rat.intCast_add]
  rfl

/-- Heights are compared by their numbers. -/
theorem above_of_heights {upper lower : Cell} {high low : List Int}
    (highest : upper.shape.heights = high.map fun height : Int => (height : Rat))
    (lowest : lower.shape.heights = low.map fun height : Int => (height : Rat))
    (apart : ∀ first ∈ high, ∀ second ∈ low, first < second) : upper.Above lower := by
  intro first firstWritten second secondWritten
  rw [highest] at firstWritten
  rw [lowest] at secondWritten
  obtain ⟨firstHeight, firstMember, rfl⟩ := List.mem_map.mp firstWritten
  obtain ⟨secondHeight, secondMember, rfl⟩ := List.mem_map.mp secondWritten
  exact Rat.intCast_lt_intCast.mpr (apart firstHeight firstMember secondHeight secondMember)

/-- A cell is an upright line, and a point lies on it. -/
def PassesThrough (cell : Cell) (point : Point) : Prop :=
  ∃ first last : Point, cell.shape = .line first last ∧ first.x = point.x ∧ last.x = point.x ∧
    first.y ≤ point.y ∧ point.y ≤ last.y

end Cell

end Drafting
