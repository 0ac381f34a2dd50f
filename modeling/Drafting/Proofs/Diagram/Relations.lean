import Drafting.Proofs.ActivityDiagram.Rendering
import Drafting.Proofs.Canvas.Network

/-!
# Drawn relations

Six dialects and the architecture drawings are networks: their figures are nodes, perhaps
with boxes around them that cannot be linked, and behind these the links of their
relations. Here the network of each is read off the diagram, without its layout.

The main statement is that each of them is drawn as its network. So a relation is drawn
exactly if both its keys have nodes, and names that occur twice lead to the last node of
that name, where actors come behind classes and use cases behind actors.
-/

namespace Drafting

open Figure

/-- The node of an actor. -/
def Actor.node (actor : Actor) : Network.Node :=
  ⟨.name actor.name, actor.label, Style.actor⟩

namespace ClassDiagram

/-- The node of a class. -/
def boxNode (box : ClassBox) : Network.Node :=
  ⟨.name box.name, box.name, Style.stackedBox box.kind.palette "1"⟩

/-- Classes and, behind them, actors, with the relations between them. -/
def network (diagram : ClassDiagram) : Network where
  nodes := diagram.classes.map boxNode ++ diagram.actors.map Actor.node
  links := diagram.relations.map fun relation =>
    ⟨relation.label, relation.kind.style, .name relation.source, .name relation.target⟩

/-- The node of a box or of an actor. -/
def Item.node : Item → Network.Node
  | .box inner => boxNode inner
  | .actor person => person.node

/-- A class diagram is drawn as its network. -/
theorem cellsOf_figures (stem : String) (diagram : ClassDiagram) :
    diagram.network.DrawnBy stem (cellsOf stem diagram.figures) := by
  have each : ∀ (item : Item) (place : Grid.Cursor),
      HoldNodes [item.figure place.x place.y] [item.node] := by
    intro item place
    cases item <;> exact .single _ _ _ _ _ _
  have held := HoldNodes.of_grid grid Item.drop (grid.start 40) diagram.items each
  have nodes : diagram.items.map Item.node = diagram.network.nodes := by
    simp [items, network, Item.node, Function.comp_def]
  rw [nodes, ← List.map_eq_flatMap] at held
  simpa [figures, network, Link.figure, Function.comp_def] using
    cellsOf_network stem held diagram.network.links

end ClassDiagram

namespace StateDiagram

/-- The node of a state. -/
def stateNode (state : State) : Network.Node :=
  ⟨.name state.key, state.label, State.styleOf state.kind⟩

/-- The states and the transitions between them; the mark for the first and the last state
is resolved by direction. -/
def network (diagram : StateDiagram) : Network where
  nodes := diagram.states.map stateNode
  links := diagram.transitions.map fun transition =>
    ⟨transition.label, transitionStyle, .name (State.keyOf transition.source true),
      .name (State.keyOf transition.target false)⟩

/-- The note beside a state is no node. -/
theorem figures_holdNodes (state : State) (x y : Int) :
    HoldNodes (state.figures x y) [stateNode state] := by
  have own : HoldNodes [.keyed (.name state.key) state.label (State.styleOf state.kind)
      (.ofInt x y state.width state.height)] [stateNode state] := .single _ _ _ _ _ _
  have note : HoldNodes (if (state.note.getD "").isEmpty then [] else
      [.plain (state.note.getD "") State.noteStyle
        (.ofInt (x + state.width + 10) y 120 60)]) [] := by
    refine .of_plain ?_
    intro figure member
    split at member
    · simp at member
    · exact ⟨_, _, _, List.mem_singleton.mp member⟩
  exact own.append note

/-- A state diagram is drawn as its network. -/
theorem cellsOf_figures (stem : String) (diagram : StateDiagram) :
    diagram.network.DrawnBy stem (cellsOf stem diagram.figures) := by
  have held := HoldNodes.of_grid grid (fun _ => 100) (grid.start 50) diagram.states
    fun state place => figures_holdNodes state place.x place.y
  have links : diagram.transitions.map transitionFigure =
      diagram.network.links.map Link.figure := by
    rw [network, List.map_map]
    rfl
  rw [figures, links]
  exact cellsOf_network stem held diagram.network.links

end StateDiagram

namespace UseCaseDiagram

/-- The node of a use case. -/
def useCaseNode (useCase : UseCase) : Network.Node :=
  ⟨.name useCase.name, useCase.label, useCaseStyle⟩

/-- Actors and, behind them, use cases, with the relations between them. -/
def network (diagram : UseCaseDiagram) : Network where
  nodes := diagram.actors.map Actor.node ++
    diagram.useCases.map useCaseNode
  links := diagram.relations.map fun relation =>
    ⟨relation.label, relationStyle, .name relation.source, .name relation.target⟩

/-- The nodes of the actors do not depend on their places. -/
theorem actorFigures_holdNodes (top : Int) (actors : List Actor) :
    HoldNodes (actorFigures top actors) (actors.map Actor.node) := by
  induction actors generalizing top with
  | nil => exact ⟨by simp [actorFigures], rfl⟩
  | cons actor others inductionHypothesis =>
    exact (HoldNodes.single _ _ _ _ _ _).append (inductionHypothesis (top + 100))

/-- Nor do those of the use cases. -/
theorem useCaseFigures_holdNodes (top : Int) (useCases : List UseCase) :
    HoldNodes (useCaseFigures top useCases)
      (useCases.map useCaseNode) := by
  induction useCases generalizing top with
  | nil => exact ⟨by simp [useCaseFigures], rfl⟩
  | cons useCase others inductionHypothesis =>
    exact (HoldNodes.single _ _ _ _ _ _).append (inductionHypothesis (top + 80))

/-- A use case diagram is drawn as its network. -/
theorem cellsOf_figures (stem : String) (diagram : UseCaseDiagram) :
    diagram.network.DrawnBy stem (cellsOf stem diagram.figures) := by
  have behind : HoldNodes (diagram.rectangles.map Rectangle.figure) [] := by
    refine HoldNodes.of_plain ?_
    intro figure member
    obtain ⟨rectangle, _, rfl⟩ := List.mem_map.mp member
    exact ⟨_, _, _, rfl⟩
  have held := (behind.append (actorFigures_holdNodes 100 diagram.actors)).append
    (useCaseFigures_holdNodes 50 diagram.useCases)
  simpa [figures, network, Link.figure, Function.comp_def] using
    cellsOf_network stem held diagram.network.links

end UseCaseDiagram

namespace EntityDiagram

/-- The node of an entity. -/
def entityNode (entity : Entity) : Network.Node :=
  ⟨.name entity.name, entity.label, Style.stackedBox .blue "0"⟩

/-- The entities and the relationships between them. -/
def network (diagram : EntityDiagram) : Network where
  nodes := diagram.entities.map entityNode
  links := diagram.relationships.map fun relationship =>
    ⟨relationship.label, relationshipStyle, .name relationship.source,
      .name relationship.target⟩

/-- An entity relationship diagram is drawn as its network. -/
theorem cellsOf_figures (stem : String) (diagram : EntityDiagram) :
    diagram.network.DrawnBy stem (cellsOf stem diagram.figures) := by
  have each : ∀ (entity : Entity) (place : Grid.Cursor),
      HoldNodes [entity.figure place.x place.y] [entityNode entity] :=
    fun _ _ => .single _ _ _ _ _ _
  have held := HoldNodes.of_grid grid (fun entity => entity.height + 80) (grid.start 50)
    diagram.entities each
  rw [← List.map_eq_flatMap] at held
  simpa [figures, network, Link.figure, Function.comp_def] using
    cellsOf_network stem held diagram.network.links

end EntityDiagram

namespace DeploymentDiagram

/-- What the network holds of a node, whose kind decides on its style. -/
def shapeNode (node : DeploymentNode) : Network.Node :=
  ⟨.name node.name, node.label, (DeploymentNode.shape node.kind).1⟩

/-- The nodes and the connections between them. -/
def network (diagram : DeploymentDiagram) : Network where
  nodes := diagram.nodes.map shapeNode
  links := diagram.connections.map fun connection =>
    ⟨connection.label, connectionStyle connection, .name connection.source,
      .name connection.target⟩

/-- A deployment diagram is drawn as its network. -/
theorem cellsOf_figures (stem : String) (diagram : DeploymentDiagram) :
    diagram.network.DrawnBy stem (cellsOf stem diagram.figures) := by
  have each : ∀ (node : DeploymentNode) (place : Grid.Cursor),
      HoldNodes [node.figure place.x place.y] [shapeNode node] :=
    fun _ _ => .single _ _ _ _ _ _
  have held := HoldNodes.of_grid grid (fun _ => 120) (grid.start 50) diagram.nodes each
  rw [← List.map_eq_flatMap] at held
  simpa [figures, network, Link.figure, Function.comp_def] using
    cellsOf_network stem held diagram.network.links

end DeploymentDiagram

namespace ActivityDiagram

/-- The node of a step. Markers have none, and only actions and decisions show their
labels. -/
def stepNode? (activity : Activity) : Option Network.Node :=
  let node (value style : String) : Option Network.Node :=
    some ⟨.number activity.id, value, style⟩
  match activity.kind with
  | .start => node "" Activity.startStyle
  | .stop => node "" Activity.stopStyle
  | .action => node activity.label (Style.roundedBox .blue)
  | .decision => node activity.label Activity.decisionStyle
  | .merge => node "" Activity.mergeStyle
  | .fork => node "" Activity.forkStyle
  | .elseifMarker | .elseMarker => none

/-- The steps that are no markers and the edges between them. -/
def network (diagram : ActivityDiagram) : Network where
  nodes := diagram.activities.filterMap stepNode?
  links := diagram.edges.map linkOf

/-- The note beside an action is no node. -/
theorem noteFigures_holdNodes (activity : Activity) (left top : Int) :
    HoldNodes (activity.noteFigures left top) [] := by
  refine .of_plain ?_
  intro figure member
  simp only [Activity.noteFigures] at member
  split at member
  · simp at member
  · exact ⟨_, _, _, List.mem_singleton.mp member⟩

/-- The node of a step does not depend on its place. -/
theorem figures_holdNodes (activity : Activity) (left top : Int) :
    HoldNodes (activity.figures left top) (stepNode? activity).toList := by
  obtain ⟨id, kind, label, swimlane, partition, related, branch, condition, note⟩ := activity
  cases kind with
  | start => exact .single _ _ _ _ _ _
  | stop =>
    exact (HoldNodes.single _ _ _ _ _ _).append (.of_plain fun _ ring =>
      ⟨_, _, _, List.mem_singleton.mp ring⟩)
  | action => exact (HoldNodes.single _ _ _ _ _ _).append (noteFigures_holdNodes _ _ _)
  | decision => exact .single _ _ _ _ _ _
  | merge => exact .single _ _ _ _ _ _
  | fork => exact .single _ _ _ _ _ _
  | elseifMarker => exact ⟨by simp [Activity.figures], rfl⟩
  | elseMarker => exact ⟨by simp [Activity.figures], rfl⟩

/-- Lanes and partitions are boxes without keys. -/
theorem background_holdNodes (diagram : ActivityDiagram) :
    HoldNodes (diagram.laneFigures ++
      diagram.partitions.filterMap fun group =>
        group.figure? diagram.activities diagram.tops) [] := by
  refine HoldNodes.of_plain ?_
  intro figure member
  rcases List.mem_append.mp member with lane | group
  · obtain ⟨⟨lane, left⟩, _, rfl⟩ := List.mem_map.mp lane
    exact ⟨_, _, _, rfl⟩
  · obtain ⟨group, _, drawn⟩ := List.mem_filterMap.mp group
    simp only [Partition.figure?] at drawn
    split at drawn
    · simp at drawn
    · exact ⟨_, _, _, (Option.some.inj drawn).symm⟩

/-- An activity is drawn as its network. -/
theorem cellsOf_figures (stem : String) (diagram : ActivityDiagram) :
    diagram.network.DrawnBy stem (cellsOf stem diagram.figures) := by
  have steps : HoldNodes (diagram.activities.flatMap diagram.stepFigures)
      (diagram.activities.filterMap stepNode?) := by
    refine HoldNodes.of_items ?_
    intro activity member
    cases marked : activity.kind.isMarker with
    | false =>
      obtain ⟨top, found⟩ := Option.isSome_iff_exists.mp
        (Activity.topOf?_isSome member marked diagram.firstTop)
      have figures : diagram.stepFigures activity =
          activity.figures (diagram.columnOf activity) top := by
        simp [stepFigures, marked, tops, found]
      exact figures ▸ figures_holdNodes activity _ top
    | true =>
      have nothing : stepNode? activity = none := by
        cases kind : activity.kind <;> simp_all [stepNode?, ActivityKind.isMarker]
      rw [nothing]
      exact ⟨by simp [stepFigures, marked], by simp [stepFigures, marked]⟩
  rw [figures_eq, nodeFigures]
  exact cellsOf_network stem (diagram.background_holdNodes.append steps) diagram.network.links

end ActivityDiagram

namespace C4

/-- The node of an element. -/
def placedNode (placed : Placed) : Network.Node :=
  ⟨.name placed.element.name, placed.element.value,
    Style.roundedBox (paletteOf placed.element.kind)⟩

/-- The elements in the order in which they are placed, and the relations between them. -/
def network (placed : List Placed) (relations : List Relation) : Network where
  nodes := placed.map placedNode
  links := relations.map fun relation =>
    ⟨relation.value, relationStyle, .name relation.source, .name relation.target⟩

/-- An architecture drawing is drawn as its network. -/
theorem cellsOf_figures (stem : String) (placed : List Placed) (relations : List Relation) :
    (network placed relations).DrawnBy stem (cellsOf stem (figures placed relations)) := by
  have held : HoldNodes (placed.flatMap fun box => [box.figure])
      (placed.filterMap fun box => some (placedNode box)) :=
    .of_items fun _ _ => .single _ _ _ _ _ _
  rw [← List.map_eq_flatMap, List.filterMap_eq_map'] at held
  simpa [figures, network, Link.figure, Function.comp_def] using
    cellsOf_network stem held (network placed relations).links

end C4

/-- Whatever the diagrams hold, their relations are drawn in order: exactly those whose two
keys have nodes, each between the last nodes of its keys, and with identifiers that follow
each other. -/
theorem relations_join_last_nodes (stem : String) :
    (∀ diagram : ClassDiagram,
      diagram.network.DrawnBy stem ((Diagram.classes diagram).cells stem)) ∧
    (∀ diagram : ActivityDiagram,
      diagram.network.DrawnBy stem ((Diagram.activity diagram).cells stem)) ∧
    (∀ diagram : StateDiagram,
      diagram.network.DrawnBy stem ((Diagram.state diagram).cells stem)) ∧
    (∀ diagram : UseCaseDiagram,
      diagram.network.DrawnBy stem ((Diagram.useCase diagram).cells stem)) ∧
    (∀ diagram : EntityDiagram,
      diagram.network.DrawnBy stem ((Diagram.entities diagram).cells stem)) ∧
    (∀ diagram : DeploymentDiagram,
      diagram.network.DrawnBy stem ((Diagram.deployment diagram).cells stem)) ∧
    ∀ (placed : List C4.Placed) (relations : List C4.Relation),
      (C4.network placed relations).DrawnBy stem
        (cellsOf stem (C4.figures placed relations)) :=
  ⟨ClassDiagram.cellsOf_figures stem, ActivityDiagram.cellsOf_figures stem,
    StateDiagram.cellsOf_figures stem, UseCaseDiagram.cellsOf_figures stem,
    EntityDiagram.cellsOf_figures stem, DeploymentDiagram.cellsOf_figures stem,
    C4.cellsOf_figures stem⟩

end Drafting
