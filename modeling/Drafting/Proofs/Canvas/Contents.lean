import Drafting.Proofs.Canvas.Frames
import Drafting.Proofs.Canvas.Links

/-!
# The contents of boxes

A cell lies on the layer or inside a box that was drawn before it. What a figure adds to a drawing
is complete in this respect: its cells lie on the layer or inside a box that the same figure adds.
So nothing that is drawn before a node or behind it lies inside the box of the node, as identifiers
are distinct, and what lies inside are the rows of the node.

The main statement is that the boxes on the layer are those of the nodes, in order, each with the
rows of its node inside.
-/

namespace Drafting

namespace Cell

/-- Whether a cell is a box that lies on the layer. -/
def isOuterBox (cell : Cell) : Bool := cell.isBox && cell.parent == layerId

/-- The cells that lie inside a box. -/
def contents (cells : List Cell) (box : Cell) : List Cell :=
  cells.filter fun cell => cell.parent == box.id

/-- Each of some cells lies on the layer or inside another one of them. -/
def Complete (cells : List Cell) : Prop :=
  ∀ cell ∈ cells, cell.parent = layerId ∨ cell.parent ∈ cells.map Cell.id

/-- Complete cells stay so behind one another. -/
theorem Complete.append {first second : List Cell} (firstComplete : Complete first)
    (secondComplete : Complete second) : Complete (first ++ second) := by
  intro cell member
  rw [List.map_append, List.mem_append]
  rcases List.mem_append.mp member with inFirst | inSecond
  · exact (firstComplete cell inFirst).imp_right .inl
  · exact (secondComplete cell inSecond).imp_right .inr

/-- Nothing lies inside a box among complete cells that do not hold the box. -/
theorem Complete.contents_eq_nil {cells : List Cell} (complete : Complete cells) {box : Cell}
    (outside : box.id ∉ cells.map Cell.id) (notLayer : box.id ≠ layerId) :
    contents cells box = [] := by
  refine List.filter_eq_nil_iff.mpr ?_
  intro cell member inside
  have same : cell.parent = box.id := eq_of_beq inside
  rcases complete cell member with onLayer | within
  · exact notLayer (same.symm.trans onLayer)
  · exact outside (same ▸ within)

end Cell

namespace Figure

/-- A box among some cells shows a figure: it has the label, the style and the place of the node,
and the cells inside it are the rows of the node. -/
def ShownBy (cells : List Cell) (figure : Figure) (box : Cell) : Prop :=
  box ∈ cells ∧ ∃ key anchor place rows, figure = .node key box.value box.style place anchor rows ∧
    box.shape = .box place ∧ (Cell.contents cells box).map Cell.body = rows.map (Row.body box.id)

/-- A box shows what it did when complete cells are added that do not hold it. -/
theorem ShownBy.append {cells : List Cell} {figure : Figure} {box : Cell}
    (shown : figure.ShownBy cells box) (before after : List Cell)
    (distinct : ((before ++ cells ++ after).map Cell.id).Nodup)
    (notLayer : box.id ≠ Cell.layerId) (beforeComplete : Cell.Complete before)
    (afterComplete : Cell.Complete after) : figure.ShownBy (before ++ cells ++ after) box := by
  obtain ⟨member, key, anchor, place, rows, node, shape, contents⟩ := shown
  rw [List.map_append, List.map_append, List.nodup_append, List.nodup_append] at distinct
  obtain ⟨⟨_, _, notBefore⟩, _, notAfter⟩ := distinct
  have own := List.mem_map_of_mem (f := Cell.id) member
  have nothingBefore := beforeComplete.contents_eq_nil
    (fun inside => notBefore _ inside _ own rfl) notLayer
  have nothingAfter := afterComplete.contents_eq_nil
    (fun inside => notAfter _ (List.mem_append_right _ own) _ inside rfl) notLayer
  have whole : Cell.contents (before ++ cells ++ after) box = Cell.contents cells box := by
    rw [Cell.contents] at nothingBefore nothingAfter
    rw [Cell.contents, List.filter_append, List.filter_append, nothingBefore, nothingAfter,
      List.nil_append, List.append_nil]
    rfl
  exact ⟨List.mem_append_left _ (List.mem_append_right _ member), key, anchor, place, rows, node,
    shape, whole ▸ contents⟩

end Figure

namespace Canvas

/-- What a figure adds is complete, and the boxes on the layer in it show the figure if it is a
node. -/
theorem draw_shows (canvas : Canvas) (figure : Figure) :
    ∃ added, (canvas.draw figure).cells = canvas.cells ++ added ∧ Cell.Complete added ∧
      List.Forall₂ (fun figure box => figure.ShownBy added box)
        ([figure].filter Figure.isNode) (added.filter Cell.isOuterBox) := by
  cases figure with
  | node key value style place anchor rows =>
    let box : Cell := ⟨idOf canvas.stem canvas.next, value, style, Cell.layerId, .box place⟩
    have notLayer : box.id ≠ Cell.layerId := idOf_ne_layerId canvas.stem canvas.next
    obtain ⟨_, added, cells, bodies⟩ := canvas.draw_node key value style place anchor rows
    have parents : ∀ cell ∈ added, cell.parent = box.id := fun cell member =>
      (Row.inside_of_bodies bodies cell member).1
    have outer : (box :: added).filter Cell.isOuterBox = [box] := by
      rw [List.filter_cons_of_pos (by rfl)]
      refine congrArg (box :: ·) (List.filter_eq_nil_iff.mpr ?_)
      intro cell member
      simp [Cell.isOuterBox, parents cell member, notLayer]
    have contents : Cell.contents (box :: added) box = added := by
      rw [Cell.contents, List.filter_cons_of_neg (by simpa using notLayer.symm)]
      exact List.filter_eq_self.mpr fun cell member => beq_iff_eq.mpr (parents cell member)
    refine ⟨box :: added, cells, ?_, ?_⟩
    · intro cell member
      rcases List.mem_cons.mp member with rfl | row
      · exact .inl rfl
      · exact .inr (parents cell row ▸ List.mem_cons_self)
    · rw [outer]
      refine .cons ⟨List.mem_cons_self, key, anchor, place, rows, rfl, rfl, ?_⟩ .nil
      rw [contents, bodies]
  | link value style source target =>
    simp only [draw, edge]
    split
    · exact ⟨[_], rfl, by simp [Cell.Complete], .nil⟩
    · exact ⟨[], (List.append_nil _).symm, by simp [Cell.Complete], .nil⟩
  | line value style start stop => exact ⟨[_], rfl, by simp [Cell.Complete], .nil⟩

/-- What several figures add is complete, and the boxes on the layer in it show the nodes among the
figures. -/
theorem drawAll_shows (canvas : Canvas) (figures : List Figure)
    (distinct : ((canvas.drawAll figures).cells.map Cell.id).Nodup)
    (notLayer : Cell.layerId ∉ (canvas.drawAll figures).cells.map Cell.id) :
    ∃ added, (canvas.drawAll figures).cells = canvas.cells ++ added ∧ Cell.Complete added ∧
      List.Forall₂ (fun figure box => figure.ShownBy added box)
        (figures.filter Figure.isNode) (added.filter Cell.isOuterBox) := by
  induction figures generalizing canvas with
  | nil => exact ⟨[], (List.append_nil _).symm, by simp [Cell.Complete], .nil⟩
  | cons figure others inductionHypothesis =>
    obtain ⟨first, firstCells, firstComplete, firstShown⟩ := canvas.draw_shows figure
    obtain ⟨later, laterCells, laterComplete, laterShown⟩ :=
      inductionHypothesis (canvas.draw figure) distinct notLayer
    have whole : (canvas.drawAll (figure :: others)).cells = canvas.cells ++ (first ++ later) := by
      rw [← List.append_assoc, ← firstCells]
      exact laterCells
    rw [whole, List.map_append] at distinct notLayer
    have apart := (List.nodup_append.mp distinct).2.1
    have foreign : ∀ box ∈ first ++ later, box.id ≠ Cell.layerId := fun box member same =>
      notLayer (List.mem_append_right _ (same ▸ List.mem_map_of_mem member))
    refine ⟨first ++ later, whole, firstComplete.append laterComplete, ?_⟩
    rw [← List.singleton_append, List.filter_append, List.filter_append]
    refine List.rel_append (firstShown.imp ?_) (laterShown.imp ?_)
    · intro node box shown
      exact shown.append [] later apart (foreign box (List.mem_append_left _ shown.1))
        (by simp [Cell.Complete]) laterComplete
    · intro node box shown
      have lifted := shown.append first [] (by simpa using apart)
        (foreign box (List.mem_append_right _ shown.1)) firstComplete (by simp [Cell.Complete])
      rwa [List.append_nil] at lifted

end Canvas

/-- The boxes on the layer of a drawing show its nodes, in order: each box has the rows of its node
inside, and nothing else. -/
theorem cellsOf_shows (stem : String) (figures : List Figure) :
    List.Forall₂ (fun figure box => figure.ShownBy (cellsOf stem figures) box)
      (figures.filter Figure.isNode) ((cellsOf stem figures).filter Cell.isOuterBox) := by
  have numbered := cellsOf_numbered stem figures
  obtain ⟨added, cells, _, shown⟩ :=
    (Canvas.blank stem).drawAll_shows figures numbered.distinct numbered.notLayer
  have whole : cellsOf stem figures = added := cells
  rw [whole]
  exact shown

end Drafting
