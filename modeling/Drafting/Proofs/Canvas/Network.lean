import Drafting.Grid
import Drafting.Proofs.Canvas.Links
import Drafting.Proofs.Correspondence

/-!
# Networks

A network is what a drawing of nodes and links says apart from places: the nodes in the
order in which they are drawn, each with its key, and the links between keys. Boxes that
cannot be linked, such as notes and rows, are no part of it.

The main statement is that nodes drawn before links become boxes, and that the cells behind
these boxes are those of the links whose two keys have nodes. Each joins the last nodes of
its keys. A link without one of its ends is passed over and takes no number, so the
identifiers of the others follow each other. If no link lacks an end, none is lost: every
link has its cell, between the boxes of two items that have its keys.
-/

namespace Drafting

/-- What a network holds of a node. -/
structure Network.Node where
  key : Key
  label : String
  style : String
  deriving DecidableEq, Repr

/-- Nodes in the order in which they are drawn, and links between their keys. -/
structure Network where
  nodes : List Network.Node
  links : List Link
  deriving DecidableEq, Repr

/-- The cells of links from a given number on, where `boxOf?` tells which box a key stands
for. Only a link with both ends takes a number. -/
def Link.cellsFrom (stem : String) (boxOf? : Key → Option String) : Nat → List Link → List Cell
  | _, [] => []
  | number, link :: others =>
    match boxOf? link.source, boxOf? link.target with
    | some source, some target =>
      ⟨Canvas.idOf stem number, link.value, link.style, Cell.layerId, .link source target⟩ ::
        cellsFrom stem boxOf? (number + 1) others
    | _, _ => cellsFrom stem boxOf? number others

/-- Cells draw a network if they are boxes, among them one for each node in order, and
behind these the cells of the links. Each link joins the last boxes that were drawn under
its two keys. -/
def Network.DrawnBy (network : Network) (stem : String) (cells : List Cell) : Prop :=
  ∃ (boxes : List Cell) (drawn : List (Key × Cell)),
    cells = boxes ++ Link.cellsFrom stem (fun key => (drawn.reverse.lookup key).map Cell.id)
      (2 + boxes.length) network.links ∧
    (∀ cell ∈ boxes, cell.isBox = true) ∧
    (drawn.map Prod.snd).Sublist boxes ∧
    (∀ pair ∈ drawn, pair.2.parent = Cell.layerId) ∧
    drawn.map (fun (key, cell) => ⟨key, cell.value, cell.style⟩) = network.nodes

/-- What a network holds of a figure: its key, its label and its style. -/
def Figure.node? : Figure → Option Network.Node
  | .node (some key) value style _ _ _ => some ⟨key, value, style⟩
  | _ => none

namespace Canvas

/-- A figure is drawn as a node exactly if it is one, with its key, label and style. -/
theorem nodeOf?_of_figure (canvas : Canvas) (figure : Figure) :
    (canvas.nodeOf? figure).map (fun (key, cell) => Network.Node.mk key cell.value cell.style) =
      figure.node? := by
  cases figure with
  | node key value style place anchor rows => cases key <;> rfl
  | link value style source target => rfl
  | line value style start stop => rfl

/-- The nodes that are drawn are those of the figures. -/
theorem nodes_of_figures (canvas : Canvas) (figures : List Figure) :
    (canvas.nodes figures).map (fun (key, cell) => Network.Node.mk key cell.value cell.style) =
      figures.filterMap Figure.node? := by
  induction figures generalizing canvas with
  | nil => rfl
  | cons figure others inductionHypothesis =>
    rw [nodes, List.map_append, inductionHypothesis (canvas.draw figure), List.filterMap_cons,
      ← canvas.nodeOf?_of_figure figure]
    cases canvas.nodeOf? figure <;> rfl

/-- The nodes that are drawn are boxes, and in the drawing they stand in the order in which
they are drawn. -/
theorem nodes_sublist (canvas : Canvas) {figures : List Figure}
    (only : ∀ figure ∈ figures, figure.isNode = true) :
    ∃ boxes, (canvas.drawAll figures).cells = canvas.cells ++ boxes ∧
      (∀ cell ∈ boxes, cell.isBox = true) ∧
      ((canvas.nodes figures).map Prod.snd).Sublist boxes := by
  induction figures generalizing canvas with
  | nil => exact ⟨[], by simp [drawAll], by simp, by simp [nodes]⟩
  | cons figure others inductionHypothesis =>
    obtain ⟨boxes, cells, areBoxes, ordered⟩ := inductionHypothesis (canvas.draw figure)
      fun other member => only other (by simp [member])
    cases figure with
    | node key value style place anchor rows =>
      obtain ⟨_, added, drawn, bodies⟩ := canvas.draw_node key value style place anchor rows
      let box : Cell := ⟨idOf canvas.stem canvas.next, value, style, Cell.layerId, .box place⟩
      refine ⟨box :: added ++ boxes, ?_, ?_, ?_⟩
      · have whole : (canvas.drawAll (.node key value style place anchor rows :: others)).cells =
            (canvas.draw (.node key value style place anchor rows)).cells ++ boxes := cells
        rw [whole, drawn, List.append_assoc]
      · intro cell member
        rcases List.mem_append.mp member with here | later
        · rcases List.mem_cons.mp here with rfl | row
          · rfl
          · exact (Row.inside_of_bodies bodies cell row).2
        · exact areBoxes cell later
      · rw [nodes, List.map_append]
        refine List.Sublist.append ?_ ordered
        cases key with
        | none => exact List.nil_sublist _
        | some key => exact List.singleton_sublist.mpr List.mem_cons_self
    | link value style source target =>
      exact absurd (only (.link value style source target) (by simp)) (by simp [Figure.isNode])
    | line value style start stop =>
      exact absurd (only (.line value style start stop) (by simp)) (by simp [Figure.isNode])

/-- Drawing links adds exactly their cells, from the next number on. -/
theorem drawAll_linkCells (canvas : Canvas) (links : List Link) :
    (canvas.drawAll (links.map Link.figure)).cells = canvas.cells ++
      Link.cellsFrom canvas.stem (fun key => (canvas.placement? key).map Placement.id)
        canvas.next links := by
  induction links generalizing canvas with
  | nil => simp [drawAll, Link.cellsFrom]
  | cons link others inductionHypothesis =>
    have later := inductionHypothesis (canvas.draw link.figure)
    have whole : canvas.drawAll ((link :: others).map Link.figure) =
        (canvas.draw link.figure).drawAll (others.map Link.figure) := rfl
    have drawn : canvas.draw link.figure =
        (canvas.edge link.value link.style link.source link.target).2 := rfl
    rw [whole, later, Link.cellsFrom]
    cases start : canvas.placement? link.source with
    | none =>
      have same := edge_of_missing canvas link.value link.style link.source link.target (.inl start)
      simp [drawn, same]
    | some source =>
      cases stop : canvas.placement? link.target with
      | none =>
        have same :=
          edge_of_missing canvas link.value link.style link.source link.target (.inr stop)
        simp [drawn, same]
      | some target =>
        have kept (key : Key) : (canvas.draw link.figure).placement? key = canvas.placement? key :=
          congrArg (List.lookup key) (drawn ▸ canvas.edge_placements _ _ _ _)
        simp only [kept]
        simp [drawn, edge, start, stop, issue]

end Canvas

namespace Figure

variable {α : Type}

/-- Figures are boxes, and those with a key are the given nodes, in order. -/
structure HoldNodes (figures : List Figure) (nodes : List Network.Node) : Prop where
  only : ∀ figure ∈ figures, figure.isNode = true
  keyed : figures.filterMap node? = nodes

namespace HoldNodes

/-- A box with a key is a node. -/
theorem single (key : Key) (value style : String) (place : Box) (anchor : Option Point)
    (rows : List Row) :
    HoldNodes [.node (some key) value style place anchor rows] [⟨key, value, style⟩] where
  only := by simp [isNode]
  keyed := rfl

/-- Boxes without keys hold no node. -/
theorem of_plain {figures : List Figure}
    (plain : ∀ figure ∈ figures, ∃ value style place, figure = .plain value style place) :
    HoldNodes figures [] where
  only := by
    intro figure member
    obtain ⟨value, style, place, rfl⟩ := plain figure member
    rfl
  keyed := by
    refine List.filterMap_eq_nil_iff.mpr ?_
    intro figure member
    obtain ⟨value, style, place, rfl⟩ := plain figure member
    rfl

/-- Figures behind figures hold the nodes of both. -/
theorem append {first second : List Figure} {before after : List Network.Node}
    (ahead : HoldNodes first before) (behind : HoldNodes second after) :
    HoldNodes (first ++ second) (before ++ after) where
  only := by
    intro figure member
    rcases List.mem_append.mp member with here | there
    · exact ahead.only figure here
    · exact behind.only figure there
  keyed := by rw [List.filterMap_append, ahead.keyed, behind.keyed]

/-- Where the figures of every item hold its node, those of all items hold their nodes. -/
theorem of_items {items : List α} {figures : α → List Figure}
    {nodeOf? : α → Option Network.Node}
    (each : ∀ item ∈ items, HoldNodes (figures item) (nodeOf? item).toList) :
    HoldNodes (items.flatMap figures) (items.filterMap nodeOf?) := by
  induction items with
  | nil => exact ⟨by simp, rfl⟩
  | cons item others inductionHypothesis =>
    have first := each item (by simp)
    have later := inductionHypothesis fun other member => each other (by simp [member])
    have whole := first.append later
    rw [List.flatMap_cons, List.filterMap_cons]
    cases here : nodeOf? item <;> simpa [here] using whole

/-- On a grid the nodes are those of its items, wherever they are placed. -/
theorem of_grid (grid : Grid) (drop : α → Int) (cursor : Grid.Cursor) (items : List α)
    {figures : α → Grid.Cursor → List Figure} {nodeOf : α → Network.Node}
    (each : ∀ item place, HoldNodes (figures item place) [nodeOf item]) :
    HoldNodes ((grid.spread drop cursor items).flatMap fun pair => figures pair.1 pair.2)
      (items.map nodeOf) := by
  have held : HoldNodes
      ((grid.spread drop cursor items).flatMap fun pair => figures pair.1 pair.2)
      ((grid.spread drop cursor items).filterMap fun pair => some (nodeOf pair.1)) :=
    of_items fun (item, place) _ => each item place
  have names := congrArg (List.map nodeOf) (grid.spread_items drop cursor items)
  rw [List.map_map] at names
  rw [← names]
  simpa [List.filterMap_eq_map', Function.comp_def] using held

end HoldNodes

end Figure

/-- Nodes drawn before links draw a network. -/
theorem cellsOf_network (stem : String) {figures : List Figure}
    {nodes : List Network.Node} (held : Figure.HoldNodes figures nodes)
    (links : List Link) :
    Network.DrawnBy ⟨nodes, links⟩ stem (cellsOf stem (figures ++ links.map Link.figure)) := by
  let blank := Canvas.blank stem
  obtain ⟨boxes, cells, areBoxes, ordered⟩ := blank.nodes_sublist held.only
  have sound := Canvas.drawAll_sound (Canvas.blank_sound stem) figures
  have allBoxes : (blank.drawAll figures).cells = boxes := cells
  have number : (blank.drawAll figures).next = 2 + boxes.length := allBoxes ▸ sound.next
  have ends : (fun key => ((blank.drawAll figures).placement? key).map Placement.id) =
      fun key => ((blank.nodes figures).reverse.lookup key).map Cell.id := by
    funext key
    rw [Canvas.placement?_drawAll]
    simp [blank, Canvas.blank, Canvas.placement?, Canvas.lastNode?]
  refine ⟨boxes, blank.nodes figures, ?_, areBoxes, ordered, ?_,
    (blank.nodes_of_figures figures).trans held.keyed⟩
  · rw [cellsOf, Canvas.drawAll_append, Canvas.drawAll_linkCells, allBoxes, number, ends,
      sound.sameStem]
  · intro pair member
    exact (Canvas.mem_nodes member).2.1

/-- If all ends stand for boxes, every link has its cell. -/
theorem Link.cellsFrom_drawn (stem : String) {boxOf? : Key → Option String} (number : Nat)
    {links : List Link}
    (placed : ∀ link ∈ links, (boxOf? link.source).isSome = true ∧
      (boxOf? link.target).isSome = true) :
    List.Forall₂
      (fun link cell => ∃ source target, boxOf? link.source = some source ∧
        boxOf? link.target = some target ∧
        cell.body = (link.value, link.style, Cell.layerId, .link source target))
      links (Link.cellsFrom stem boxOf? number links) := by
  induction links generalizing number with
  | nil => exact .nil
  | cons link others inductionHypothesis =>
    obtain ⟨hasSource, hasTarget⟩ := placed link List.mem_cons_self
    obtain ⟨source, atSource⟩ := Option.isSome_iff_exists.mp hasSource
    obtain ⟨target, atTarget⟩ := Option.isSome_iff_exists.mp hasTarget
    rw [cellsFrom, atSource, atTarget]
    refine .cons ⟨source, target, atSource, atTarget, rfl⟩ ?_
    exact inductionHypothesis (number + 1) fun other member =>
      placed other (List.mem_cons_of_mem link member)

/-- The cells of links are no boxes. -/
theorem Link.isBox_of_cellsFrom {stem : String} {boxOf? : Key → Option String} {number : Nat}
    {links : List Link} {cell : Cell} (member : cell ∈ cellsFrom stem boxOf? number links) :
    cell.isBox = false := by
  induction links generalizing number with
  | nil => contradiction
  | cons link others inductionHypothesis =>
    rw [cellsFrom] at member
    split at member
    · rcases List.mem_cons.mp member with rfl | later
      · rfl
      · exact inductionHypothesis later
    · exact inductionHypothesis member

/-- A link without one of its ends has no cell, so it can as well be left out. -/
theorem Link.cellsFrom_filter (stem : String) {boxOf? : Key → Option String} (number : Nat)
    {links : List Link} {keep : Link → Bool}
    (endless : ∀ link ∈ links, keep link = false →
      boxOf? link.source = none ∨ boxOf? link.target = none) :
    cellsFrom stem boxOf? number (links.filter keep) = cellsFrom stem boxOf? number links := by
  induction links generalizing number with
  | nil => rfl
  | cons link others inductionHypothesis =>
    have later (number : Nat) := inductionHypothesis number fun other member =>
      endless other (List.mem_cons_of_mem link member)
    cases kept : keep link with
    | true =>
      rw [List.filter_cons_of_pos kept, cellsFrom, cellsFrom]
      split <;> rw [later]
    | false =>
      have missing : cellsFrom stem boxOf? number (link :: others) =
          cellsFrom stem boxOf? number others := by
        rw [cellsFrom]
        rcases endless link List.mem_cons_self kept with noSource | noTarget
        · simp [noSource]
        · simp [noTarget]
      rw [List.filter_cons_of_neg (by simp [kept]), later, missing]

/-- Links whose source is no key of a node can be left out of a network. -/
theorem Network.DrawnBy.filter {nodes : List Network.Node} {links : List Link} {stem : String}
    {cells : List Cell} (drawnBy : Network.DrawnBy ⟨nodes, links⟩ stem cells)
    {keep : Link → Bool}
    (rootless : ∀ link ∈ links, keep link = false → link.source ∉ nodes.map Network.Node.key) :
    Network.DrawnBy ⟨nodes, links.filter keep⟩ stem cells := by
  obtain ⟨boxes, drawn, rfl, areBoxes, ordered, onLayer, rfl⟩ := drawnBy
  refine ⟨boxes, drawn, ?_, areBoxes, ordered, onLayer, rfl⟩
  rw [Link.cellsFrom_filter]
  intro link member left
  left
  have absent := rootless link member left
  rw [Option.map_eq_none_iff, List.lookup_eq_none_iff]
  intro pair inside
  rw [bne_iff_ne]
  intro same
  refine absent ?_
  rw [List.map_map, same]
  exact List.mem_map_of_mem (f := Prod.fst) (List.mem_reverse.mp inside)

/-- A cell is a link between items that were drawn under the two keys of the link. -/
def Link.Joins {α : Type} (keyOf : α → Key) (drawn : List (α × Cell)) (link : Link)
    (cell : Cell) : Prop :=
  ∃ source ∈ drawn, ∃ target ∈ drawn, keyOf source.1 = link.source ∧
    keyOf target.1 = link.target ∧
    cell.body = (link.value, link.style, Cell.layerId, .link source.2.id target.2.id)

/-- Boxes before other cells can be told from them. -/
theorem filter_isBox_append {boxes others : List Cell}
    (areBoxes : ∀ cell ∈ boxes, cell.isBox = true)
    (areOthers : ∀ cell ∈ others, cell.isBox = false) :
    (boxes ++ others).filter Cell.isBox = boxes ∧
      ((boxes ++ others).filter fun cell => !cell.isBox) = others := by
  constructor
  · rw [List.filter_append, List.filter_eq_self.mpr areBoxes,
      List.filter_eq_nil_iff.mpr (by simpa using areOthers), List.append_nil]
  · rw [List.filter_append, List.filter_eq_nil_iff.mpr (by simpa using areBoxes),
      List.filter_eq_self.mpr (by simpa using areOthers), List.nil_append]

/-- Where the nodes stand for items and both ends of every link are keys of items, every item
has its box and every link is drawn, in order and between the boxes of two such items. -/
theorem Network.DrawnBy.joined {α : Type} {items : List α} {nodeOf : α → Network.Node}
    {links : List Link} {stem : String} {cells : List Cell}
    (drawnBy : Network.DrawnBy ⟨items.map nodeOf, links⟩ stem cells)
    (known : ∀ link ∈ links, (∃ item ∈ items, (nodeOf item).key = link.source) ∧
      ∃ item ∈ items, (nodeOf item).key = link.target) :
    ∃ drawn : List (α × Cell), drawn.map Prod.fst = items ∧
      (drawn.map Prod.snd).Sublist (cells.filter Cell.isBox) ∧
      (∀ pair ∈ drawn, pair.2.value = (nodeOf pair.1).label ∧
        pair.2.style = (nodeOf pair.1).style ∧ pair.2.parent = Cell.layerId) ∧
      List.Forall₂ (Link.Joins (fun item => (nodeOf item).key) drawn) links
        (cells.filter fun cell => !cell.isBox) := by
  obtain ⟨boxes, keyed, rfl, areBoxes, ordered, onLayer, nodes⟩ := drawnBy
  obtain ⟨pairs, rfl, rfl, own⟩ := exists_pairs (forall₂_of_map_eq nodes)
  let boxOf? (key : Key) : Option String :=
    ((pairs.map Prod.snd).reverse.lookup key).map Cell.id
  have areLinks : ∀ cell ∈ Link.cellsFrom stem boxOf? (2 + boxes.length) links,
      cell.isBox = false := fun _ => Link.isBox_of_cellsFrom
  obtain ⟨boxCells, linkCells⟩ := filter_isBox_append areBoxes areLinks
  have keyOf {pair : α × Key × Cell} (member : pair ∈ pairs) :
      pair.2.1 = (nodeOf pair.1).key := congrArg Network.Node.key (own pair member)
  have standsFor {key : Key} {id : String} (stands : boxOf? key = some id) :
      ∃ pair ∈ pairs, (nodeOf pair.1).key = key ∧ pair.2.2.id = id := by
    obtain ⟨box, last, same⟩ := Option.map_eq_some_iff.mp stands
    obtain ⟨pair, member, isBox⟩ := List.mem_map.mp (Canvas.mem_of_lookup_reverse last)
    refine ⟨pair, member, ?_, ?_⟩
    · rw [← keyOf member, isBox]
    · rw [isBox, same]
  have stands {key : Key} (isKey : ∃ item ∈ pairs.map Prod.fst, (nodeOf item).key = key) :
      (boxOf? key).isSome = true := by
    obtain ⟨_, member, rfl⟩ := isKey
    obtain ⟨pair, inside, rfl⟩ := List.mem_map.mp member
    rw [Option.isSome_map, List.lookup_isSome_iff]
    exact ⟨pair.2, List.mem_reverse.mpr (List.mem_map_of_mem inside),
      beq_iff_eq.mpr (keyOf inside).symm⟩
  rw [boxCells, linkCells]
  refine ⟨pairs.map fun pair => (pair.1, pair.2.2), ?_, ?_, ?_, ?_⟩
  · rw [List.map_map]
    rfl
  · rw [List.map_map] at ordered ⊢
    exact ordered
  · intro _ member
    obtain ⟨pair, inside, rfl⟩ := List.mem_map.mp member
    have node := own pair inside
    exact ⟨congrArg Network.Node.label node, congrArg Network.Node.style node,
      onLayer pair.2 (List.mem_map_of_mem inside)⟩
  · have drawn := Link.cellsFrom_drawn stem (2 + boxes.length) fun link member =>
      ⟨stands (known link member).1, stands (known link member).2⟩
    refine drawn.imp ?_
    rintro link cell ⟨source, target, atSource, atTarget, body⟩
    obtain ⟨first, firstDrawn, firstKey, rfl⟩ := standsFor atSource
    obtain ⟨second, secondDrawn, secondKey, rfl⟩ := standsFor atTarget
    exact ⟨_, List.mem_map_of_mem firstDrawn, _, List.mem_map_of_mem secondDrawn, firstKey,
      secondKey, body⟩

end Drafting
