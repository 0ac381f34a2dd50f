import Drafting.Proofs.ActivityDiagram.Connections
import Drafting.Proofs.Canvas.Links

/-!
# The drawn flow of an activity

Every step that is no marker is drawn as a node under its number, and all that is
drawn besides has no key. Since steps that were read have distinct numbers, an
edge is drawn between the nodes of its own two steps, and no edge is left out.

The main statement says so for all lines, together with the facts on edges and
steps that it rests on.
-/

namespace Drafting

namespace Activity

/-- The figures of a step that is drawn are a node under its number and boxes
without a key. -/
theorem figures_of_drawn (activity : Activity) (left top : Int)
    (drawn : activity.kind.isMarker = false) :
    ∃ value style place anchor others,
      activity.figures left top =
        .node (some (.number activity.id)) value style place anchor [] :: others ∧
      ∀ figure ∈ others, ∃ value style place, figure = .plain value style place := by
  obtain ⟨id, kind, label, swimlane, partition, related, branch, condition, note⟩ := activity
  cases kind with
  | start => exact ⟨_, _, _, _, _, rfl, by simp⟩
  | stop => exact ⟨_, _, _, _, _, rfl, by simp⟩
  | action =>
    refine ⟨_, _, _, _, _, rfl, ?_⟩
    intro figure member
    simp only [noteFigures] at member
    split at member
    · simp at member
    · exact ⟨_, _, _, by simpa using member⟩
  | decision => exact ⟨_, _, _, _, _, rfl, by simp⟩
  | merge => exact ⟨_, _, _, _, _, rfl, by simp⟩
  | fork => exact ⟨_, _, _, _, _, rfl, by simp⟩
  | elseifMarker => simp [ActivityKind.isMarker] at drawn
  | elseMarker => simp [ActivityKind.isMarker] at drawn

/-- Every step that is drawn has a place. -/
theorem topOf?_isSome {activities : List Activity} {activity : Activity}
    (member : activity ∈ activities) (drawn : activity.kind.isMarker = false) (top : Int) :
    (topOf? (tops top activities) activity.id).isSome = true := by
  suffices placed : ∃ own, (activity.id, own) ∈ tops top activities by
    obtain ⟨own, inside⟩ := placed
    exact List.lookup_isSome_iff.mpr ⟨(activity.id, own), by simpa using inside, by simp⟩
  induction activities generalizing top with
  | nil => simp at member
  | cons first others inductionHypothesis =>
    rw [tops]
    rcases List.mem_cons.mp member with rfl | later
    · exact ⟨top, by simp [drawn]⟩
    · split
      · exact inductionHypothesis later top
      · obtain ⟨own, inside⟩ := inductionHypothesis later (top + drop first.kind)
        exact ⟨own, List.mem_cons_of_mem _ inside⟩

end Activity

namespace ActivityDiagram

/-- A cell is the node of a step: the box that the layout gives to the step, with
its label and style, on the layer. -/
def Depicts (diagram : ActivityDiagram) (activity : Activity) (cell : Cell) : Prop :=
  cell.parent = Cell.layerId ∧ ∃ place anchor others, cell.shape = .box place ∧
    diagram.stepFigures activity =
      .node (some (.number activity.id)) cell.value cell.style place anchor [] :: others

/-- A cell draws an edge: it links the nodes of the two steps of the edge and
carries its label. -/
def Connects (diagram : ActivityDiagram) (cells : List Cell) (edge : ActivityEdge)
    (cell : Cell) : Prop :=
  ∃ first ∈ diagram.activities, ∃ second ∈ diagram.activities,
    first.id = edge.source ∧ second.id = edge.target ∧
    ∃ source ∈ cells, ∃ target ∈ cells,
      diagram.Depicts first source ∧ diagram.Depicts second target ∧
      cell.body = (edge.label, edgeStyle, Cell.layerId, .link source.id target.id)

/-- The figures of an activity without those of its edges. -/
def nodeFigures (diagram : ActivityDiagram) : List Figure :=
  diagram.laneFigures ++
  diagram.partitions.filterMap (fun group => group.figure? diagram.activities diagram.tops) ++
  diagram.activities.flatMap diagram.stepFigures

/-- The link of an edge. -/
def linkOf (edge : ActivityEdge) : Link :=
  ⟨edge.label, edgeStyle, .number edge.source, .number edge.target⟩

/-- An edge can be told from its link. -/
theorem linkOf_injective {first second : ActivityEdge} (same : linkOf first = linkOf second) :
    first = second := by
  obtain ⟨source, target, label⟩ := first
  simp only [linkOf, Link.mk.injEq, Key.number.injEq] at same
  obtain ⟨rfl, _, rfl, rfl⟩ := same
  rfl

/-- The figures of an activity are nodes and, behind them, the links of its
edges. -/
theorem figures_eq (diagram : ActivityDiagram) :
    diagram.figures = diagram.nodeFigures ++ (diagram.edges.map linkOf).map Link.figure := by
  simp [figures, nodeFigures, linkOf, Link.figure]

/-- A step that is drawn has its node among the figures. -/
theorem stepFigures_of_drawn (diagram : ActivityDiagram) {activity : Activity}
    (member : activity ∈ diagram.activities) (drawn : activity.kind.isMarker = false) :
    ∃ value style place anchor others,
      diagram.stepFigures activity =
        .node (some (.number activity.id)) value style place anchor [] :: others ∧
      ∀ figure ∈ others, ∃ value style place, figure = .plain value style place := by
  obtain ⟨top, found⟩ := Option.isSome_iff_exists.mp
    (Activity.topOf?_isSome member drawn diagram.firstTop)
  have figures : diagram.stepFigures activity =
      activity.figures (diagram.columnOf activity) top := by
    simp [stepFigures, drawn, tops, found]
  rw [figures]
  exact Activity.figures_of_drawn activity _ top drawn

/-- What stands before the links is a box without a key or comes from a step that is
drawn. -/
theorem mem_nodeFigures {diagram : ActivityDiagram} {figure : Figure}
    (member : figure ∈ diagram.nodeFigures) :
    (∃ value style place, figure = .plain value style place) ∨
      ∃ activity ∈ diagram.activities, activity.kind.isMarker = false ∧
        figure ∈ diagram.stepFigures activity := by
  rw [nodeFigures, List.mem_append, List.mem_append] at member
  rcases member with (lane | group) | step
  · obtain ⟨⟨lane, left⟩, _, rfl⟩ := List.mem_map.mp lane
    exact .inl ⟨_, _, _, rfl⟩
  · obtain ⟨group, _, drawn⟩ := List.mem_filterMap.mp group
    simp only [Partition.figure?] at drawn
    split at drawn
    · simp at drawn
    · exact .inl ⟨_, _, _, (Option.some.inj drawn).symm⟩
  · obtain ⟨activity, inside, own⟩ := List.mem_flatMap.mp step
    refine .inr ⟨activity, inside, ?_, own⟩
    cases marked : activity.kind.isMarker with
    | false => rfl
    | true => simp [stepFigures, marked] at own

/-- Only boxes stand before the links. -/
theorem nodeFigures_isNode (diagram : ActivityDiagram) :
    ∀ figure ∈ diagram.nodeFigures, figure.isNode = true := by
  intro figure member
  rcases mem_nodeFigures member with ⟨value, style, place, rfl⟩ | ⟨activity, inside, drawn, own⟩
  · rfl
  · obtain ⟨value, style, place, anchor, others, figures, plain⟩ :=
      diagram.stepFigures_of_drawn inside drawn
    rw [figures] at own
    rcases List.mem_cons.mp own with rfl | other
    · rfl
    · obtain ⟨value, style, place, rfl⟩ := plain figure other
      rfl

/-- The last node under the number of a step is the node of that step, provided that
steps have distinct numbers. -/
theorem lastNode?_depicts {diagram : ActivityDiagram}
    (ordered : Activity.Ordered diagram.activities) (canvas : Canvas) {activity : Activity}
    (member : activity ∈ diagram.activities) (drawn : activity.kind.isMarker = false) :
    ∃ cell, canvas.lastNode? diagram.nodeFigures (.number activity.id) = some cell ∧
      cell ∈ (canvas.drawAll diagram.nodeFigures).cells ∧ diagram.Depicts activity cell := by
  obtain ⟨value, style, place, anchor, others, figures, _⟩ :=
    diagram.stepFigures_of_drawn member drawn
  have inside : .node (some (.number activity.id)) value style place anchor [] ∈
      diagram.nodeFigures := by
    refine List.mem_append_right _ (List.mem_flatMap.mpr ⟨activity, member, ?_⟩)
    simp [figures]
  obtain ⟨cell, last⟩ := Option.isSome_iff_exists.mp
    (canvas.lastNode?_isSome inside)
  obtain ⟨cellMember, parent, own, ownAnchor, rows, shape, source⟩ :=
    Canvas.mem_nodes (Canvas.mem_nodes_of_lastNode? last)
  refine ⟨cell, last, cellMember, parent, own, ownAnchor, ?_⟩
  -- the figure of this node is keyed, so it is the first figure of a step of this number
  rcases mem_nodeFigures source with ⟨_, _, _, plain⟩ | ⟨other, otherMember, otherDrawn, belongs⟩
  · simp [Figure.plain] at plain
  · obtain ⟨_, _, _, _, rest, otherFigures, plain⟩ :=
      diagram.stepFigures_of_drawn otherMember otherDrawn
    rw [otherFigures] at belongs
    rcases List.mem_cons.mp belongs with same | behind
    · simp only [Figure.node.injEq, Option.some.injEq, Key.number.injEq] at same
      obtain ⟨number, rfl, rfl, rfl, rfl, rfl⟩ := same
      obtain rfl : other = activity := ordered.eq_of_id otherMember member number.symm
      exact ⟨rest, shape, otherFigures⟩
    · obtain ⟨_, _, _, unkeyed⟩ := plain _ behind
      simp [Figure.plain] at unkeyed

/-- If the steps have distinct numbers and every edge joins two steps that are drawn,
every edge is drawn as a link between the nodes of its steps. -/
theorem edges_connected (stem : String) {diagram : ActivityDiagram}
    (ordered : Activity.Ordered diagram.activities)
    (joined : ∀ edge ∈ diagram.edges, ∃ first ∈ diagram.activities,
      ∃ second ∈ diagram.activities, first.kind.isMarker = false ∧
      second.kind.isMarker = false ∧ first.id = edge.source ∧ second.id = edge.target) :
    List.Forall₂ (diagram.Connects (cellsOf stem diagram.figures)) diagram.edges
      ((cellsOf stem diagram.figures).filter fun cell => !cell.isBox) := by
  let canvas := Canvas.blank stem
  have placed : ∀ link ∈ diagram.edges.map linkOf,
      (canvas.lastNode? diagram.nodeFigures link.source).isSome = true ∧
        (canvas.lastNode? diagram.nodeFigures link.target).isSome = true := by
    intro link member
    obtain ⟨edge, inside, rfl⟩ := List.mem_map.mp member
    obtain ⟨first, firstMember, second, secondMember, firstDrawn, secondDrawn, source, target⟩ :=
      joined edge inside
    obtain ⟨start, startNode, _⟩ := lastNode?_depicts ordered canvas firstMember firstDrawn
    obtain ⟨stop, stopNode, _⟩ := lastNode?_depicts ordered canvas secondMember secondDrawn
    rw [source] at startNode
    rw [target] at stopNode
    simp [linkOf, startNode, stopNode]
  have kept := (canvas.drawAll diagram.nodeFigures).cells_prefix_drawAll
    ((diagram.edges.map linkOf).map Link.figure)
  rw [← Canvas.drawAll_append, ← figures_eq] at kept
  have drawn := links_drawn stem diagram.nodeFigures_isNode (diagram.edges.map linkOf) placed
  rw [← figures_eq, List.forall₂_map_left_iff] at drawn
  refine drawn.imp ?_
  rintro edge cell ⟨member, source, target, sourceNode, targetNode, body⟩
  obtain ⟨same, inside, alike⟩ := List.mem_map.mp member
  obtain rfl : same = edge := linkOf_injective alike
  obtain ⟨first, firstMember, second, secondMember, firstDrawn, secondDrawn, first_id,
    second_id⟩ := joined same inside
  obtain ⟨start, startNode, startCell, startDepicts⟩ :=
    lastNode?_depicts ordered canvas firstMember firstDrawn
  obtain ⟨stop, stopNode, stopCell, stopDepicts⟩ :=
    lastNode?_depicts ordered canvas secondMember secondDrawn
  rw [first_id] at startNode
  rw [second_id] at stopNode
  obtain rfl : start = source := Option.some.inj (startNode.symm.trans sourceNode)
  obtain rfl : stop = target := Option.some.inj (stopNode.symm.trans targetNode)
  exact ⟨first, firstMember, second, secondMember, first_id, second_id, start,
    kept.subset startCell, stop, kept.subset stopCell, startDepicts, stopDepicts, body⟩

/-- Whatever lines are read as an activity: its steps are numbered by their places;
every edge leads from a step that is drawn to a later one that is drawn; every step
that is drawn is reached from the first; and the drawing holds, in order, exactly
one link for each edge, between the nodes of its two steps. -/
theorem flow_of_lines (stem : String) (lines : List String) :
    let diagram := ofLines lines
    let cells := (Diagram.activity diagram).cells stem
    diagram.activities.map Activity.id =
        (List.range diagram.activities.length).map Int.ofNat ∧
      (∀ edge ∈ diagram.edges, ∃ source ∈ diagram.activities, ∃ target ∈ diagram.activities,
        source.kind.isMarker = false ∧ target.kind.isMarker = false ∧
        source.id = edge.source ∧ target.id = edge.target ∧ edge.source < edge.target) ∧
      (∀ activity ∈ diagram.activities, activity.kind.isMarker = false →
        Relation.ReflTransGen (Activity.Leads diagram.edges) 0 activity.id) ∧
      List.Forall₂ (diagram.Connects cells) diagram.edges
        (cells.filter fun cell => !cell.isBox) := by
  intro diagram cells
  have ordered : Activity.Ordered diagram.activities := ofLines_ordered lines
  have edges : diagram.edges = Activity.edges diagram.activities := rfl
  have forward (edge : ActivityEdge) (member : edge ∈ diagram.edges) :=
    ordered.edge_forward (edges ▸ member)
  refine ⟨ordered.numbers, ?_, ?_, ?_⟩
  · intro edge member
    obtain ⟨source, sourceMember, target, targetMember, sourceDrawn, targetDrawn, first, second,
      later⟩ := forward edge member
    exact ⟨source, sourceMember, target, targetMember, sourceDrawn, targetDrawn, first, second,
      first ▸ second ▸ later⟩
  · intro activity member drawn
    obtain ⟨before, after, split⟩ := List.append_of_mem member
    exact edges ▸ ordered.reachable split drawn
  · refine edges_connected stem ordered ?_
    intro edge member
    obtain ⟨source, sourceMember, target, targetMember, sourceDrawn, targetDrawn, first, second,
      _⟩ := forward edge member
    exact ⟨source, sourceMember, target, targetMember, sourceDrawn, targetDrawn, first, second⟩

end ActivityDiagram

end Drafting
