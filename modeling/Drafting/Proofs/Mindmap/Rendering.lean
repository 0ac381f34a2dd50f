import Drafting.Proofs.Canvas.Links
import Drafting.Proofs.Mindmap.Outline
import Drafting.Proofs.Position

/-!
# The drawn branches of a mind map

A node is drawn under its number, and right behind it the link from its parent. This link
is drawn only if the parent was drawn before, which holds for every mind map that is read:
a node is hung under a node that stands before it. Since nodes have distinct numbers, the
key of the parent stands for the box of the parent.

The main statement joins this with the reading of outlines: from the lines of a forest come
its nodes, and in the drawing one link for each node that has a parent.
-/

namespace Drafting

/-- A cell is the box of a node: it shows the text in the colours of the level. -/
def MindmapNode.Depicts (node : MindmapNode) (cell : Cell) : Prop :=
  cell.value = node.text ∧ cell.style = Style.roundedBox (palette node.level) ∧
    cell.parent = Cell.layerId ∧ ∃ x y, cell.shape = .box (.ofInt x y node.width height)

namespace Mindmap

/-- Nodes are numbered by their positions, and each parent stands before its node. -/
structure Rooted (nodes : List MindmapNode) : Prop where
  numbered : NumberedBy MindmapNode.id nodes
  parents : ∀ before node after, nodes = before ++ node :: after →
    ∀ parent ∈ node.parent, ∃ above ∈ before, above.id = parent

/-- The last node of a level is one of the nodes. -/
theorem mem_of_lastOfLevel? {map : Mindmap} {level parent : Int}
    (found : map.lastOfLevel? level = some parent) : ∃ above ∈ map.nodes, above.id = parent := by
  obtain ⟨above, last, same⟩ := Option.map_eq_some_iff.mp found
  exact ⟨above, List.mem_reverse.mp (List.mem_of_find?_eq_some last), same⟩

/-- A line that is read as a node hangs it under a node before it, or under none. -/
theorem addItem_rooted {map : Mindmap} (rooted : Rooted map.nodes) (item : Item) :
    Rooted (map.addItem item).nodes := by
  constructor
  · exact rooted.numbered.concat rfl
  · intro before node after split parent hung
    rcases split_of_concat split with ⟨rfl, rfl, _⟩ | ⟨rest, _, earlier⟩
    · by_cases root : (1 : Int) < item.marks.length
      · rw [if_pos root] at hung
        exact mem_of_lastOfLevel? hung
      · rw [if_neg root] at hung
        simp at hung
    · exact rooted.parents before node rest earlier parent hung

/-- So every line keeps the nodes numbered and hung under earlier ones. -/
theorem readLine_rooted {map : Mindmap} (rooted : Rooted map.nodes) (line : String) :
    Rooted (map.readLine line).nodes := by
  rw [readLine]
  split
  · exact addItem_rooted rooted _
  · exact rooted

/-- Whatever lines are read, parents stand before their nodes. -/
theorem ofLines_rooted (lines : List String) : Rooted (ofLines lines).nodes := by
  refine List.foldlRecOn (motive := fun map : Mindmap => Rooted map.nodes) _ readLine ⟨.nil, ?_⟩
    fun _ rooted line _ => readLine_rooted rooted line
  intro before node after split
  simp at split

/-- A cell links a node to its parent: it leads from the box of the parent to that of the
node. -/
def Joins (drawn : List (MindmapNode × Cell)) (node : MindmapNode) (cell : Cell) : Prop :=
  ∃ above ∈ drawn, ∃ own ∈ drawn, own.1 = node ∧ node.parent = some above.1.id ∧
    cell.body = ("", MindmapNode.linkStyle, Cell.layerId, .link above.2.id own.2.id)

/-- A link stays what it is when more nodes are drawn. -/
theorem Joins.append {drawn : List (MindmapNode × Cell)} {node : MindmapNode} {cell : Cell}
    (joins : Joins drawn node cell) (more : List (MindmapNode × Cell)) :
    Joins (drawn ++ more) node cell := by
  obtain ⟨above, aboveDrawn, own, ownDrawn, facts⟩ := joins
  exact ⟨above, List.mem_append_left more aboveDrawn, own, List.mem_append_left more ownDrawn,
    facts⟩

/-- What holds of a canvas on which some nodes were drawn and some of them linked: the boxes
are those of the nodes, the other cells are the links, and the number of a node stands for
its box. -/
structure Draws (canvas : Canvas) (drawn : List (MindmapNode × Cell))
    (linked : List MindmapNode) : Prop where
  boxes : drawn.map Prod.snd = canvas.cells.filter Cell.isBox
  depicts : ∀ pair ∈ drawn, pair.1.Depicts pair.2
  links : List.Forall₂ (Joins drawn) linked (canvas.cells.filter fun cell => !cell.isBox)
  placed : ∀ pair ∈ drawn,
    (canvas.placement? (.number pair.1.id)).map Placement.id = some pair.2.id

variable {canvas : Canvas} {drawn : List (MindmapNode × Cell)} {linked : List MindmapNode}

/-- Nothing is drawn on a blank canvas. -/
theorem blank_draws (stem : String) : Draws (Canvas.blank stem) [] [] where
  boxes := rfl
  depicts := by simp
  links := .nil
  placed := by simp

/-- Drawing the box of a node with a new number. The numbers of the nodes before it still
stand for their boxes. -/
theorem Draws.box (draws : Draws canvas drawn linked) {node : MindmapNode}
    (fresh : ∀ pair ∈ drawn, pair.1.id ≠ node.id) (x y : Int) (anchor : Option Point) :
    ∃ box, Draws
      (canvas.draw (.node (some (.number node.id)) node.text
        (Style.roundedBox (MindmapNode.palette node.level))
        (.ofInt x y node.width MindmapNode.height) anchor []))
      (drawn ++ [(node, box)]) linked := by
  let box : Cell := ⟨Canvas.idOf canvas.stem canvas.next, node.text,
    Style.roundedBox (MindmapNode.palette node.level), Cell.layerId,
    .box (.ofInt x y node.width MindmapNode.height)⟩
  refine ⟨box, ?_, ?_, ?_, ?_⟩
  · have boxes : (canvas.cells ++ [box]).filter Cell.isBox =
        canvas.cells.filter Cell.isBox ++ [box] := by
      rw [List.filter_append]
      rfl
    rw [List.map_append, draws.boxes]
    exact boxes.symm
  · intro pair member
    rcases List.mem_append.mp member with earlier | last
    · exact draws.depicts pair earlier
    · rw [List.mem_singleton.mp last]
      exact ⟨rfl, rfl, rfl, x, y, rfl⟩
  · have links : ((canvas.cells ++ [box]).filter fun cell => !cell.isBox) =
        canvas.cells.filter fun cell => !cell.isBox := by
      rw [List.filter_append]
      exact List.append_nil _
    exact links ▸ draws.links.imp fun _ _ joins => joins.append [(node, box)]
  · intro pair member
    rcases List.mem_append.mp member with earlier | last
    · have different : Key.number pair.1.id ≠ .number node.id := by
        intro same
        exact fresh pair earlier (Key.number.inj same)
      rw [← draws.placed pair earlier]
      exact congrArg _ (Canvas.lookup_remember_other different _ _)
    · rw [List.mem_singleton.mp last]
      exact congrArg _ (Canvas.lookup_remember_same _ _ _)

/-- Drawing the link between two nodes that are drawn. -/
theorem Draws.link (draws : Draws canvas drawn linked) {above own : MindmapNode × Cell}
    (aboveDrawn : above ∈ drawn) (ownDrawn : own ∈ drawn)
    (hung : own.1.parent = some above.1.id) :
    Draws (canvas.draw (.link "" MindmapNode.linkStyle (.number above.1.id)
      (.number own.1.id))) drawn (linked ++ [own.1]) := by
  obtain ⟨source, atSource, sourceId⟩ := Option.map_eq_some_iff.mp (draws.placed above aboveDrawn)
  obtain ⟨target, atTarget, targetId⟩ := Option.map_eq_some_iff.mp (draws.placed own ownDrawn)
  let link : Cell := ⟨Canvas.idOf canvas.stem canvas.next, "", MindmapNode.linkStyle,
    Cell.layerId, .link source.id target.id⟩
  have whole : canvas.draw (.link "" MindmapNode.linkStyle (.number above.1.id)
      (.number own.1.id)) =
      ⟨canvas.stem, canvas.next + 1, canvas.placements, canvas.cells ++ [link]⟩ := by
    rw [Canvas.draw, Canvas.edge, atSource, atTarget]
    rfl
  have joins : Joins drawn own.1 link := by
    refine ⟨above, aboveDrawn, own, ownDrawn, rfl, hung, ?_⟩
    rw [← sourceId, ← targetId]
    rfl
  rw [whole]
  refine ⟨?_, draws.depicts, ?_, draws.placed⟩
  · rw [draws.boxes, List.filter_append]
    exact (List.append_nil _).symm
  · rw [List.filter_append]
    exact List.rel_append draws.links (.cons joins .nil)

/-- Drawing a node of a new number whose parent, if it has one, is drawn. -/
theorem Draws.node (draws : Draws canvas drawn linked) (node : MindmapNode) (x y : Int)
    (fresh : ∀ pair ∈ drawn, pair.1.id ≠ node.id)
    (known : ∀ parent ∈ node.parent, ∃ pair ∈ drawn, pair.1.id = parent) :
    ∃ box, Draws (canvas.drawAll (node.figures x y)) (drawn ++ [(node, box)])
      (linked ++ [node].filter fun node => node.parent.isSome) := by
  obtain ⟨box, boxed⟩ := draws.box fresh x y
    (some (.ofInt (x + node.width / 2) (y + MindmapNode.height / 2)))
  refine ⟨box, ?_⟩
  cases hung : node.parent with
  | none =>
    rw [List.filter_cons_of_neg (by simp [hung]), List.filter_nil, List.append_nil,
      MindmapNode.figures, hung]
    exact boxed
  | some parent =>
    obtain ⟨above, aboveDrawn, rfl⟩ := known parent hung
    rw [List.filter_cons_of_pos (by simp [hung]), List.filter_nil, MindmapNode.figures, hung]
    exact boxed.link (List.mem_append_left _ aboveDrawn)
      (List.mem_append_right drawn (List.mem_singleton_self (node, box))) hung

/-- Drawing nodes one after the other draws all of them, provided that parents stand before
their nodes. -/
theorem Draws.figuresFrom (draws : Draws canvas drawn linked) (edges : MindmapNode.Edges)
    {nodes : List MindmapNode} (rooted : Rooted (drawn.map Prod.fst ++ nodes)) :
    ∃ all, all.map Prod.fst = drawn.map Prod.fst ++ nodes ∧
      Draws (canvas.drawAll (figuresFrom edges nodes)) all
        (linked ++ nodes.filter fun node => node.parent.isSome) := by
  induction nodes generalizing canvas drawn linked edges with
  | nil =>
    refine ⟨drawn, (List.append_nil _).symm, ?_⟩
    rw [List.filter_nil, List.append_nil]
    exact draws
  | cons node others inductionHypothesis =>
    have fresh : ∀ pair ∈ drawn, pair.1.id ≠ node.id := by
      intro pair member
      exact Int.ne_of_lt (rooted.numbered.lt_of_split rfl (List.mem_map_of_mem member))
    have known : ∀ parent ∈ node.parent, ∃ pair ∈ drawn, pair.1.id = parent := by
      intro parent hung
      obtain ⟨above, member, same⟩ := rooted.parents _ node others rfl parent hung
      obtain ⟨pair, pairDrawn, rfl⟩ := List.mem_map.mp member
      exact ⟨pair, pairDrawn, same⟩
    let place := node.place edges
    obtain ⟨box, first⟩ := draws.node node place.1 place.2.1 fresh known
    have grown : (drawn ++ [(node, box)]).map Prod.fst ++ others =
        drawn.map Prod.fst ++ node :: others := by simp
    obtain ⟨all, nodes, later⟩ := inductionHypothesis first place.2.2 (grown ▸ rooted)
    refine ⟨all, nodes.trans grown, ?_⟩
    have figures : Mindmap.figuresFrom edges (node :: others) =
        node.figures place.1 place.2.1 ++ Mindmap.figuresFrom place.2.2 others := rfl
    have links : (node :: others).filter (fun node => node.parent.isSome) =
        ([node].filter fun node => node.parent.isSome) ++
          others.filter fun node => node.parent.isSome := by
      rw [← List.filter_append, List.singleton_append]
    rw [figures, Canvas.drawAll_append, links, ← List.append_assoc]
    exact later

/-- In the drawing of a mind map that was read, the boxes are those of its nodes, and the
other cells are one link for each node with a parent, in order and from the box of the
parent to that of the node. -/
theorem drawn_of_lines (stem : String) (lines : List String) :
    let map := ofLines lines
    let cells := (Diagram.mindmap map).cells stem
    ∃ drawn : List (MindmapNode × Cell), drawn.map Prod.fst = map.nodes ∧
      drawn.map Prod.snd = cells.filter Cell.isBox ∧
      (∀ pair ∈ drawn, pair.1.Depicts pair.2) ∧
      List.Forall₂ (Joins drawn) (map.nodes.filter fun node => node.parent.isSome)
        (cells.filter fun cell => !cell.isBox) := by
  intro map cells
  obtain ⟨drawn, nodes, draws⟩ := (blank_draws stem).figuresFrom
    ⟨MindmapNode.center.2 - 100, MindmapNode.center.2 - 100⟩ (ofLines_rooted lines)
  exact ⟨drawn, nodes, draws.boxes, draws.depicts, draws.links⟩

/-- The lines of a forest of topics are read as its nodes: in preorder, numbered from zero,
each with its depth, its text and the number of the topic above it. In the drawing every
node has its box, and every node with a parent has one link, which leads from the box of
the parent to its own. -/
theorem outline_recovered_and_drawn (stem : String) (topics : List Topic) :
    let map := ofLines (Topic.linesAll 0 topics)
    let cells := (Diagram.mindmap map).cells stem
    map.nodes = Topic.nodesAll none 0 0 topics ∧
      map.nodes.map MindmapNode.id = (List.range (Topic.sizeAll topics)).map Int.ofNat ∧
      ∃ drawn : List (MindmapNode × Cell), drawn.map Prod.fst = map.nodes ∧
        drawn.map Prod.snd = cells.filter Cell.isBox ∧
        (∀ pair ∈ drawn, pair.1.Depicts pair.2) ∧
        List.Forall₂ (Joins drawn) (map.nodes.filter fun node => node.parent.isSome)
          (cells.filter fun cell => !cell.isBox) := by
  intro map cells
  have nodes : map.nodes = Topic.nodesAll none 0 0 topics :=
    congrArg Mindmap.nodes (ofLines_linesAll topics)
  have length : map.nodes.length = Topic.sizeAll topics := by rw [nodes, Topic.length_nodesAll]
  have numbered : NumberedBy MindmapNode.id map.nodes := (ofLines_rooted _).numbered
  refine ⟨nodes, ?_, drawn_of_lines stem _⟩
  rw [numbered, length]

end Mindmap

end Drafting
