import Mathlib.Algebra.Order.Ring.Rat
import Drafting.Proofs.Canvas.Numbering

/-!
# Frames

The frame of a cell is the rectangle that it takes up on the page. A box on the layer has one,
namely its place. A row has none of its own: its place is relative to the box that holds it.

The main statement is that the frames of a drawing are the places of its nodes, in order. Rows
cannot be mistaken for nodes, since the box around them was given an identifier with a hyphen,
whatever the stem is, and the layer has none.
-/

namespace Drafting

namespace Box

/-- A point belongs to a rectangle, which includes its edges. -/
def Contains (box : Box) (point : Point) : Prop :=
  box.x ≤ point.x ∧ point.x ≤ box.x + box.width ∧ box.y ≤ point.y ∧ point.y ≤ box.y + box.height

/-- Two rectangles have no point in common. -/
def Apart (first second : Box) : Prop := ∀ point, first.Contains point → ¬second.Contains point

/-- Neither side of a rectangle is negative, so that its corners belong to it. -/
def IsSized (box : Box) : Prop := 0 ≤ box.width ∧ 0 ≤ box.height

/-- Rectangles are apart exactly if one lies beside, above or below the other. If none of this is
so, they share the point that is as far to the right and as far down as both corners require. -/
theorem apart_iff {first second : Box} (firstSized : first.IsSized)
    (secondSized : second.IsSized) :
    first.Apart second ↔
      first.x + first.width < second.x ∨ second.x + second.width < first.x ∨
        first.y + first.height < second.y ∨ second.y + second.height < first.y := by
  obtain ⟨firstWidth, firstHeight⟩ := firstSized
  obtain ⟨secondWidth, secondHeight⟩ := secondSized
  constructor
  · intro apart
    by_contra meet
    simp only [not_or, not_lt] at meet
    obtain ⟨right, left, below, above⟩ := meet
    refine apart ⟨max first.x second.x, max first.y second.y⟩ ?_ ?_
    · exact ⟨le_max_left _ _, max_le (le_add_of_nonneg_right firstWidth) right,
        le_max_left _ _, max_le (le_add_of_nonneg_right firstHeight) below⟩
    · exact ⟨le_max_right _ _, max_le left (le_add_of_nonneg_right secondWidth),
        le_max_right _ _, max_le above (le_add_of_nonneg_right secondHeight)⟩
  · rintro clear point ⟨left, right, top, bottom⟩ ⟨otherLeft, otherRight, otherTop, otherBottom⟩
    rcases clear with beside | beside | below | above
    · exact absurd (otherLeft.trans right) (not_le.mpr beside)
    · exact absurd (left.trans otherRight) (not_le.mpr beside)
    · exact absurd (otherTop.trans bottom) (not_le.mpr below)
    · exact absurd (top.trans otherBottom) (not_le.mpr above)

/-- With integral coordinates, the numbers decide. -/
theorem apart_ofInt_iff {x y width height x' y' width' height' : Int} (sizedWidth : 0 ≤ width)
    (sizedHeight : 0 ≤ height) (sizedWidth' : 0 ≤ width') (sizedHeight' : 0 ≤ height') :
    (ofInt x y width height).Apart (ofInt x' y' width' height') ↔
      x + width < x' ∨ x' + width' < x ∨ y + height < y' ∨ y' + height' < y := by
  have sized : (ofInt x y width height).IsSized :=
    ⟨Rat.intCast_nonneg.mpr sizedWidth, Rat.intCast_nonneg.mpr sizedHeight⟩
  have sized' : (ofInt x' y' width' height').IsSized :=
    ⟨Rat.intCast_nonneg.mpr sizedWidth', Rat.intCast_nonneg.mpr sizedHeight'⟩
  rw [apart_iff sized sized']
  simp only [ofInt, ← Rat.intCast_add, Rat.intCast_lt_intCast]

/-- A point belongs to a rectangle and to none of its edges. -/
def Surrounds (box : Box) (point : Point) : Prop :=
  box.x < point.x ∧ point.x < box.x + box.width ∧ box.y < point.y ∧ point.y < box.y + box.height

/-- Two rectangles have at most points of their edges in common. -/
def InteriorsApart (first second : Box) : Prop :=
  ∀ point, first.Surrounds point → ¬second.Surrounds point

/-- A rectangle that begins where another one ends, or further below, has at most an edge in
common with it. -/
theorem interiorsApart_of_below {upper lower : Box} (below : upper.y + upper.height ≤ lower.y) :
    upper.InteriorsApart lower := by
  rintro point ⟨_, _, _, bottom⟩ ⟨_, _, top, _⟩
  exact absurd (top.trans bottom) (not_lt.mpr below)

/-- A rectangle reaches over the whole height of another one. -/
def SpansHeight (outer inner : Box) : Prop :=
  outer.y ≤ inner.y ∧ inner.y + inner.height ≤ outer.y + outer.height

/-- A rectangle lies between two heights. -/
def LiesBetween (box : Box) (top bottom : Int) : Prop :=
  (top : Rat) ≤ box.y ∧ box.y + box.height ≤ (bottom : Rat)

/-- With integral coordinates, the numbers decide. -/
theorem liesBetween_ofInt_iff {x y width height top bottom : Int} :
    (ofInt x y width height).LiesBetween top bottom ↔ top ≤ y ∧ y + height ≤ bottom := by
  simp only [LiesBetween, ofInt, ← Rat.intCast_add, Rat.intCast_le_intCast]

/-- So they do for the heights over which a rectangle reaches. -/
theorem spansHeight_ofInt_iff {x y width height : Int} {inner : Box} :
    (ofInt x y width height).SpansHeight inner ↔ inner.LiesBetween y (y + height) := by
  rw [SpansHeight, LiesBetween, Rat.intCast_add]
  rfl

end Box

/-- The rectangle of a box that lies on the layer. -/
def Cell.frame? (cell : Cell) : Option Box :=
  match cell.shape with
  | .box place => if cell.parent = layerId then some place else none
  | _ => none

/-- The rectangle of a node. -/
def Figure.frame? : Figure → Option Box
  | .node _ _ _ place _ _ => some place
  | _ => none

namespace Canvas

/-- No box is the layer, whatever the stem is. -/
theorem idOf_ne_layerId (stem : String) (number : Nat) : idOf stem number ≠ Cell.layerId := by
  have absent : Cell.layerId ∉ [number].map (idOf stem) :=
    reserved_not_issued stem [number] (by decide)
  exact fun same => absent (List.mem_singleton.mpr same.symm)

/-- Rows have no frames. -/
theorem frames_drawRows {parent : String} (inside : parent ≠ Cell.layerId) (canvas : Canvas)
    (rows : List Row) :
    (canvas.drawRows parent rows).cells.filterMap Cell.frame? =
      canvas.cells.filterMap Cell.frame? := by
  induction rows generalizing canvas with
  | nil => rfl
  | cons row others inductionHypothesis =>
    let drawn := (canvas.vertex row.value row.style row.place parent none none).2
    have later : (canvas.drawRows parent (row :: others)).cells.filterMap Cell.frame? =
        drawn.cells.filterMap Cell.frame? := inductionHypothesis drawn
    rw [later]
    simp [drawn, vertex, issue, Cell.frame?, inside]

/-- A figure adds its frame if it is a node, and no frame otherwise. -/
theorem frames_draw (canvas : Canvas) (figure : Figure) :
    (canvas.draw figure).cells.filterMap Cell.frame? =
      canvas.cells.filterMap Cell.frame? ++ figure.frame?.toList := by
  cases figure with
  | node key value style place anchor rows =>
    have inside := idOf_ne_layerId canvas.stem canvas.next
    have rowless := frames_drawRows inside
      (canvas.vertex value style place Cell.layerId key anchor).2 rows
    refine rowless.trans ?_
    simp [vertex, issue, Cell.frame?, Figure.frame?]
  | link value style source target =>
    simp only [draw, edge]
    split <;> simp [issue, Cell.frame?, Figure.frame?]
  | line value style start stop => simp [draw, line, issue, Cell.frame?, Figure.frame?]

/-- Figures add the frames of the nodes among them. -/
theorem frames_drawAll (canvas : Canvas) (figures : List Figure) :
    (canvas.drawAll figures).cells.filterMap Cell.frame? =
      canvas.cells.filterMap Cell.frame? ++ figures.filterMap Figure.frame? := by
  induction figures generalizing canvas with
  | nil => exact (List.append_nil _).symm
  | cons figure others inductionHypothesis =>
    have whole : canvas.drawAll (figure :: others) = (canvas.draw figure).drawAll others := rfl
    rw [whole, inductionHypothesis, frames_draw, List.append_assoc, List.filterMap_cons]
    cases figure.frame? <;> rfl

end Canvas

/-- The frames of a drawing are those of its figures. -/
theorem frames_cellsOf (stem : String) (figures : List Figure) :
    (cellsOf stem figures).filterMap Cell.frame? = figures.filterMap Figure.frame? :=
  Canvas.frames_drawAll (.blank stem) figures

end Drafting
