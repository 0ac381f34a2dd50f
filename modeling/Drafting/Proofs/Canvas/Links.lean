import Mathlib.Data.List.Forall2
import Drafting.Proofs.Canvas.Numbering

/-!
# Links between nodes

Most drawings consist of nodes and, behind them, links between the keys of nodes.
A key stands for the last node that was drawn under it, so a link joins the last
nodes of its two keys, and it is drawn exactly if both keys have nodes.

The main statement gives the cells of such a drawing that are no boxes.
-/

namespace Drafting

/-- A link between two keys, before it is drawn. -/
structure Link where
  value : String
  style : String
  source : Key
  target : Key
  deriving DecidableEq, Repr

/-- The figure of a link. -/
def Link.figure (link : Link) : Figure := .link link.value link.style link.source link.target

/-- Whether a figure is a box with its rows. -/
def Figure.isNode : Figure → Bool
  | .node .. => true
  | _ => false

/-- What a cell is apart from its identifier. -/
def Cell.body (cell : Cell) : String × String × String × Cell.Shape :=
  (cell.value, cell.style, cell.parent, cell.shape)

/-- What the cell of a row inside a given box is apart from its identifier. -/
def Row.body (parent : String) (row : Row) : String × String × String × Cell.Shape :=
  (row.value, row.style, parent, .box row.place)

/-- The cells of rows are boxes inside the box of the rows. -/
theorem Row.inside_of_bodies {parent : String} {rows : List Row} {cells : List Cell}
    (bodies : cells.map Cell.body = rows.map (Row.body parent)) :
    ∀ cell ∈ cells, cell.parent = parent ∧ cell.isBox = true := by
  intro cell member
  have drawn := List.mem_map_of_mem (f := Cell.body) member
  rw [bodies] at drawn
  obtain ⟨row, _, same⟩ := List.mem_map.mp drawn
  have shape : cell.shape = .box row.place := (congrArg (fun body => body.2.2.2) same).symm
  refine ⟨(congrArg (fun body => body.2.2.1) same).symm, ?_⟩
  rw [Cell.isBox, shape]

namespace Canvas

/-- The box that a figure places under a key, with that key. -/
def nodeOf? (canvas : Canvas) : Figure → Option (Key × Cell)
  | .node (some key) value style place _ _ =>
    some (key, ⟨idOf canvas.stem canvas.next, value, style, Cell.layerId, .box place⟩)
  | _ => none

/-- The boxes that figures place under keys, in the order in which they are
drawn. -/
def nodes (canvas : Canvas) : List Figure → List (Key × Cell)
  | [] => []
  | figure :: others => (canvas.nodeOf? figure).toList ++ (canvas.draw figure).nodes others

/-- The last box that figures place under a key. -/
def lastNode? (canvas : Canvas) (figures : List Figure) (key : Key) : Option Cell :=
  (canvas.nodes figures).reverse.lookup key

/-- Rows are added in order, and nothing else. -/
theorem drawRows_adds (parent : String) (canvas : Canvas) (rows : List Row) :
    (canvas.drawRows parent rows).placements = canvas.placements ∧
      ∃ added, (canvas.drawRows parent rows).cells = canvas.cells ++ added ∧
        added.map Cell.body = rows.map (Row.body parent) := by
  induction rows generalizing canvas with
  | nil => exact ⟨rfl, [], by simp [drawRows], rfl⟩
  | cons row others inductionHypothesis =>
    let first := (canvas.vertex row.value row.style row.place parent none none).2
    obtain ⟨placements, added, cells, bodies⟩ := inductionHypothesis first
    let drawn : Cell :=
      ⟨idOf canvas.stem canvas.next, row.value, row.style, parent, .box row.place⟩
    refine ⟨placements, drawn :: added, ?_, ?_⟩
    · have whole : (canvas.drawRows parent (row :: others)).cells = first.cells ++ added := cells
      rw [whole]
      simp [first, vertex, issue, drawn]
    · rw [List.map_cons, List.map_cons, bodies]
      rfl

/-- What drawing a node adds: its box, its rows inside it, and the key. -/
theorem draw_node (canvas : Canvas) (key : Option Key) (value style : String) (place : Box)
    (anchor : Option Point) (rows : List Row) :
    let box : Cell := ⟨idOf canvas.stem canvas.next, value, style, Cell.layerId, .box place⟩
    let drawn := canvas.draw (.node key value style place anchor rows)
    (drawn.placements = match key with
      | some key => remember key ⟨box.id, anchor.getD place.corner⟩ canvas.placements
      | none => canvas.placements) ∧
    ∃ added, drawn.cells = canvas.cells ++ box :: added ∧
      added.map Cell.body = rows.map (Row.body box.id) := by
  intro box drawn
  obtain ⟨placements, added, cells, bodies⟩ := drawRows_adds box.id
    (canvas.vertex value style place Cell.layerId key anchor).2 rows
  refine ⟨?_, added, ?_, bodies⟩
  · cases key <;> exact placements
  · have whole : drawn.cells = (canvas.cells ++ [box]) ++ added := cells
    rw [whole, List.append_assoc, List.singleton_append]

/-- Figures are drawn one after the other. -/
theorem drawAll_append (canvas : Canvas) (first second : List Figure) :
    canvas.drawAll (first ++ second) = (canvas.drawAll first).drawAll second :=
  List.foldl_append

/-- Drawing a figure leaves the cells before it where they are. -/
theorem cells_prefix_draw (canvas : Canvas) (figure : Figure) :
    canvas.cells <+: (canvas.draw figure).cells := by
  cases figure with
  | node key value style place anchor rows =>
    obtain ⟨_, added, cells, _⟩ := canvas.draw_node key value style place anchor rows
    exact ⟨_, cells.symm⟩
  | link value style source target =>
    simp only [draw, edge]
    split
    · exact List.prefix_append _ _
    · exact List.prefix_rfl
  | line value style start stop => exact List.prefix_append _ _

/-- So does drawing several. -/
theorem cells_prefix_drawAll (canvas : Canvas) (figures : List Figure) :
    canvas.cells <+: (canvas.drawAll figures).cells := by
  induction figures generalizing canvas with
  | nil => exact List.prefix_rfl
  | cons figure others inductionHypothesis =>
    exact (canvas.cells_prefix_draw figure).trans (inductionHypothesis (canvas.draw figure))

/-- A node is drawn as a cell, by a figure with the same key, label, style and
place. -/
theorem mem_nodes {canvas : Canvas} {figures : List Figure} {key : Key} {cell : Cell}
    (member : (key, cell) ∈ canvas.nodes figures) :
    cell ∈ (canvas.drawAll figures).cells ∧ cell.parent = Cell.layerId ∧
      ∃ place anchor rows, cell.shape = .box place ∧
        .node (some key) cell.value cell.style place anchor rows ∈ figures := by
  induction figures generalizing canvas with
  | nil => simp [nodes] at member
  | cons figure others inductionHypothesis =>
    rw [nodes, List.mem_append, Option.mem_toList] at member
    rcases member with here | later
    · cases figure with
      | node own value style place anchor rows =>
        cases own with
        | none => simp [nodeOf?] at here
        | some own =>
          obtain ⟨rfl, rfl⟩ : own = key ∧ _ = cell := by simpa [nodeOf?] using here
          obtain ⟨_, added, cells, _⟩ := canvas.draw_node (some own) value style place anchor rows
          have drawn := (canvas.draw (.node (some own) value style place anchor rows)
            ).cells_prefix_drawAll others
          exact ⟨drawn.subset (by simp [cells]), rfl, place, anchor, rows, rfl, by simp⟩
      | link value style source target => simp [nodeOf?] at here
      | line value style start stop => simp [nodeOf?] at here
    · obtain ⟨drawn, parent, place, anchor, rows, shape, inside⟩ := inductionHypothesis later
      exact ⟨drawn, parent, place, anchor, rows, shape, List.mem_cons_of_mem _ inside⟩

/-- A key under which a figure places a box has a last node. -/
theorem lastNode?_isSome (canvas : Canvas) {figures : List Figure} {key : Key}
    {value style : String} {place : Box} {anchor : Option Point} {rows : List Row}
    (member : .node (some key) value style place anchor rows ∈ figures) :
    (canvas.lastNode? figures key).isSome = true := by
  suffices placed : ∃ cell, (key, cell) ∈ canvas.nodes figures by
    obtain ⟨cell, inside⟩ := placed
    exact List.lookup_isSome_iff.mpr ⟨(key, cell), by simpa using inside, by simp⟩
  induction figures generalizing canvas with
  | nil => simp at member
  | cons figure others inductionHypothesis =>
    rcases List.mem_cons.mp member with rfl | later
    · exact ⟨_, List.mem_append_left _ (Option.mem_toList.mpr rfl)⟩
    · obtain ⟨cell, inside⟩ : ∃ cell, (key, cell) ∈ (canvas.draw figure).nodes others :=
        inductionHypothesis (canvas.draw figure) later
      exact ⟨cell, List.mem_append_right _ inside⟩

/-- What stands last under a key is one of the pairs. -/
theorem mem_of_lookup_reverse {pairs : List (Key × Cell)} {key : Key} {cell : Cell}
    (last : pairs.reverse.lookup key = some cell) : (key, cell) ∈ pairs := by
  obtain ⟨before, after, split, _⟩ := List.lookup_eq_some_iff.mp last
  have inside : (key, cell) ∈ pairs.reverse := by simp [split]
  exact List.mem_reverse.mp inside

/-- The last node of a key is one of the nodes. -/
theorem mem_nodes_of_lastNode? {canvas : Canvas} {figures : List Figure} {key : Key} {cell : Cell}
    (last : canvas.lastNode? figures key = some cell) : (key, cell) ∈ canvas.nodes figures :=
  mem_of_lookup_reverse last

/-- A link is not remembered. -/
theorem edge_placements (canvas : Canvas) (value style : String) (source target : Key) :
    (canvas.edge value style source target).2.placements = canvas.placements := by
  simp only [edge]
  split <;> rfl

/-- A figure without a key leaves what keys stand for as it was, and one with a key
changes it for its own key only. -/
theorem placement?_draw (canvas : Canvas) (figure : Figure) (key : Key) :
    ((canvas.draw figure).placement? key).map Placement.id =
      (((canvas.nodeOf? figure).toList.lookup key).map Cell.id).or
        ((canvas.placement? key).map Placement.id) := by
  cases figure with
  | node own value style place anchor rows =>
    obtain ⟨placements, _⟩ := canvas.draw_node own value style place anchor rows
    cases own with
    | none => simp [placement?, placements, nodeOf?]
    | some own =>
      by_cases same : key = own
      · subst same
        simp [placement?, placements, nodeOf?, lookup_remember_same]
      · simp [placement?, placements, nodeOf?, lookup_remember_other same, List.lookup_cons,
          beq_false_of_ne same]
  | link value style source target =>
    have kept : (canvas.draw (.link value style source target)).placements = canvas.placements :=
      canvas.edge_placements value style source target
    simp [placement?, kept, nodeOf?]
  | line value style start stop =>
    have kept : (canvas.draw (.line value style start stop)).placements = canvas.placements := rfl
    simp [placement?, kept, nodeOf?]

/-- A key stands for the last node that was drawn under it. -/
theorem placement?_drawAll (canvas : Canvas) (figures : List Figure) (key : Key) :
    ((canvas.drawAll figures).placement? key).map Placement.id =
      ((canvas.lastNode? figures key).map Cell.id).or
        ((canvas.placement? key).map Placement.id) := by
  induction figures generalizing canvas with
  | nil => simp [drawAll, lastNode?, nodes]
  | cons figure others inductionHypothesis =>
    have later := inductionHypothesis (canvas.draw figure)
    rw [placement?_draw] at later
    have whole : canvas.drawAll (figure :: others) = (canvas.draw figure).drawAll others := rfl
    rw [whole, later, lastNode?, lastNode?, nodes, List.reverse_append, List.lookup_append]
    have single : (canvas.nodeOf? figure).toList.reverse = (canvas.nodeOf? figure).toList := by
      cases canvas.nodeOf? figure <;> rfl
    rw [single, Option.map_or, Option.or_assoc]

/-- Drawing nodes adds boxes and nothing else. -/
theorem drawAll_onlyNodes (canvas : Canvas) {figures : List Figure}
    (only : ∀ figure ∈ figures, figure.isNode = true) :
    ((canvas.drawAll figures).cells.filter fun cell => !cell.isBox) =
      canvas.cells.filter fun cell => !cell.isBox := by
  induction figures generalizing canvas with
  | nil => rfl
  | cons figure others inductionHypothesis =>
    have later := inductionHypothesis (canvas.draw figure)
      (fun other member => only other (by simp [member]))
    have whole : canvas.drawAll (figure :: others) = (canvas.draw figure).drawAll others := rfl
    rw [whole, later]
    cases figure with
    | node key value style place anchor rows =>
      obtain ⟨_, added, cells, bodies⟩ := canvas.draw_node key value style place anchor rows
      have own : Cell.isBox ⟨idOf canvas.stem canvas.next, value, style, Cell.layerId,
        .box place⟩ = true := rfl
      have none : added.filter (fun cell => !cell.isBox) = [] := by
        simpa [List.filter_eq_nil_iff] using fun cell member =>
          (Row.inside_of_bodies bodies cell member).2
      rw [cells, List.filter_append, List.filter_cons_of_neg (by simp [own]), none,
        List.append_nil]
    | link value style source target =>
      have node := only (.link value style source target) (by simp)
      simp [Figure.isNode] at node
    | line value style start stop =>
      have node := only (.line value style start stop) (by simp)
      simp [Figure.isNode] at node

/-- The body of the cell of a link, given what its keys stand for. Without a box
for both of them there is none. -/
def linkBody? (boxOf? : Key → Option String) (link : Link) :
    Option (String × String × String × Cell.Shape) := do
  return (link.value, link.style, Cell.layerId,
    .link (← boxOf? link.source) (← boxOf? link.target))

/-- Drawing links adds a cell for each one whose two keys stand for boxes. -/
theorem drawAll_links (canvas : Canvas) (links : List Link) :
    ((canvas.drawAll (links.map Link.figure)).cells.filter fun cell => !cell.isBox).map
        Cell.body =
      (canvas.cells.filter fun cell => !cell.isBox).map Cell.body ++
        links.filterMap
          (linkBody? fun key => (canvas.placement? key).map Placement.id) := by
  induction links generalizing canvas with
  | nil => simp [drawAll]
  | cons link others inductionHypothesis =>
    have later := inductionHypothesis (canvas.draw link.figure)
    have whole : canvas.drawAll ((link :: others).map Link.figure) =
        (canvas.draw link.figure).drawAll (others.map Link.figure) := rfl
    rw [whole, later]
    have drawn : canvas.draw link.figure =
        (canvas.edge link.value link.style link.source link.target).2 := rfl
    cases start : canvas.placement? link.source with
    | none =>
      have same := edge_of_missing canvas link.value link.style link.source link.target (.inl start)
      simp [drawn, same, linkBody?, start]
    | some source =>
      cases stop : canvas.placement? link.target with
      | none =>
        have same :=
          edge_of_missing canvas link.value link.style link.source link.target (.inr stop)
        simp [drawn, same, linkBody?, start, stop]
      | some target =>
        have kept (key : Key) : (canvas.draw link.figure).placement? key = canvas.placement? key :=
          congrArg (List.lookup key) (drawn ▸ canvas.edge_placements _ _ _ _)
        have cells : (canvas.draw link.figure).cells = canvas.cells ++
            [⟨idOf canvas.stem canvas.next, link.value, link.style, Cell.layerId,
              .link source.id target.id⟩] := by
          simp [drawn, edge, start, stop, issue]
        simp [kept, cells, linkBody?, start, stop, Cell.isBox, Cell.body]

end Canvas

/-- The cells of nodes and links that are no boxes are those of the links between
keys that have nodes, in order. Each joins the last nodes of its two keys. -/
theorem cellsOf_nodes_links (stem : String) {figures : List Figure}
    (only : ∀ figure ∈ figures, figure.isNode = true) (links : List Link) :
    ((cellsOf stem (figures ++ links.map Link.figure)).filter fun cell => !cell.isBox).map
        Cell.body =
      links.filterMap
        (Canvas.linkBody? fun key =>
          ((Canvas.blank stem).lastNode? figures key).map Cell.id) := by
  have boxes := Canvas.drawAll_onlyNodes (Canvas.blank stem) only
  have ends : (fun key => (((Canvas.blank stem).drawAll figures).placement? key).map
      Placement.id) = fun key => ((Canvas.blank stem).lastNode? figures key).map Cell.id := by
    funext key
    rw [Canvas.placement?_drawAll]
    simp [Canvas.blank, Canvas.placement?]
  rw [cellsOf, Canvas.drawAll_append, Canvas.drawAll_links, boxes, ends]
  simp [Canvas.blank]

/-- Where every item has a result, the results stand in the order of the items. -/
theorem forall₂_of_filterMap {α β γ : Type} {result : α → Option β} {view : γ → β}
    {items : List α} {found : List γ} (same : found.map view = items.filterMap result)
    (defined : ∀ item ∈ items, (result item).isSome = true) :
    List.Forall₂ (fun item member => item ∈ items ∧ result item = some (view member))
      items found := by
  induction items generalizing found with
  | nil =>
    obtain rfl : found = [] := by simpa using same
    exact .nil
  | cons item others inductionHypothesis =>
    obtain ⟨value, here⟩ := Option.isSome_iff_exists.mp (defined item (by simp))
    rw [List.filterMap_cons_some here] at same
    obtain ⟨member, rest, rfl, rfl, later⟩ := List.map_eq_cons_iff.mp same
    refine .cons ⟨by simp, here⟩ ?_
    refine (inductionHypothesis later fun other inside => defined other (by simp [inside])).imp ?_
    rintro other found ⟨inside, value⟩
    exact ⟨List.mem_cons_of_mem item inside, value⟩

/-- If the keys of all links have nodes, every link is drawn: the cells that are no
boxes are those of the links, one for each and in order. -/
theorem links_drawn (stem : String) {figures : List Figure}
    (only : ∀ figure ∈ figures, figure.isNode = true) (links : List Link)
    (placed : ∀ link ∈ links,
      ((Canvas.blank stem).lastNode? figures link.source).isSome = true ∧
        ((Canvas.blank stem).lastNode? figures link.target).isSome = true) :
    List.Forall₂
      (fun link cell => link ∈ links ∧ ∃ source target,
        (Canvas.blank stem).lastNode? figures link.source = some source ∧
        (Canvas.blank stem).lastNode? figures link.target = some target ∧
        cell.body = (link.value, link.style, Cell.layerId, .link source.id target.id))
      links ((cellsOf stem (figures ++ links.map Link.figure)).filter fun cell => !cell.isBox) := by
  have drawn := forall₂_of_filterMap (cellsOf_nodes_links stem only links) (by
    intro link member
    obtain ⟨source, target⟩ := placed link member
    obtain ⟨start, start'⟩ := Option.isSome_iff_exists.mp source
    obtain ⟨stop, stop'⟩ := Option.isSome_iff_exists.mp target
    simp [Canvas.linkBody?, start', stop'])
  refine drawn.imp ?_
  rintro link cell ⟨member, body⟩
  obtain ⟨source, target⟩ := placed link member
  obtain ⟨start, start'⟩ := Option.isSome_iff_exists.mp source
  obtain ⟨stop, stop'⟩ := Option.isSome_iff_exists.mp target
  refine ⟨member, start, stop, start', stop', ?_⟩
  simpa [Canvas.linkBody?, start', stop'] using body.symm

end Drafting
