import Drafting.DeploymentDiagram.Reader
import Drafting.EntityDiagram.Reader
import Drafting.Proofs.Diagram.Relations
import Drafting.Proofs.Position

/-!
# Links between declared and undeclared names

In deployment diagrams and in entity relationship diagrams a link may name what was not
declared. The reader then adds it, so that whatever lines are read, both ends of every link
are names of the diagram. It is an invariant of the reader that items are numbered by their
positions and that the links know their ends; an item is never taken away, and the columns
that an open entity gets later change neither names nor numbers.

The two readers differ in what they do with a name that is declared again. A node of a
deployment diagram is added once. An entity is added again, and its name then stands for the
last entity that has it.

The main statement is that no link is lost: in the drawing of whatever was read, each has
its cell, in order and between the boxes of two items that have the names of its ends.
-/

namespace Drafting

variable {α β : Type} {name : α → String} {number : α → Int} {source target : β → String}
  {items : List α} {links : List β}

/-- An item with a given key is found exactly if the key is one of those of the items. -/
theorem any_key_iff {key : α → String} {asked : String} :
    (items.any fun item => key item == asked) = true ↔ asked ∈ items.map key := by
  rw [List.any_eq_true, List.mem_map]
  exact exists_congr fun item => and_congr_right fun _ => beq_iff_eq

/-- A change of one item does not show in a view that is blind to it. -/
theorem map_modify_of_blind {γ : Type} {view : α → γ} {change : α → α}
    (blind : ∀ item, view (change item) = view item) (items : List α) (position : Nat) :
    (items.modify position change).map view = items.map view := by
  refine List.ext_getElem? ?_
  intro index
  rw [List.getElem?_map, List.getElem?_modify, List.getElem?_map, Option.map_eq_map,
    Option.map_map]
  refine congrArg (fun seen : α → γ => items[index]?.map seen) ?_
  funext item
  rw [Function.comp_apply]
  split
  · exact blind item
  · rfl

/-- Items are numbered by their positions, and both ends of every link are names of
items. -/
structure Linked (name : α → String) (number : α → Int) (source target : β → String)
    (items : List α) (links : List β) : Prop where
  numbered : NumberedBy number items
  known : ∀ link ∈ links, source link ∈ items.map name ∧ target link ∈ items.map name

namespace Linked

/-- Without items there are no links. -/
theorem nil : Linked name number source target [] [] := ⟨.nil, by simp⟩

/-- A further item takes the next number and leaves the links as they are. -/
theorem addItem (linked : Linked name number source target items links) {item : α}
    (next : number item = items.length) :
    Linked name number source target (items ++ [item]) links := by
  refine ⟨linked.numbered.concat next, ?_⟩
  intro link member
  obtain ⟨atSource, atTarget⟩ := linked.known link member
  rw [List.map_append]
  exact ⟨List.mem_append_left _ atSource, List.mem_append_left _ atTarget⟩

/-- A further link must know its ends. -/
theorem addLink (linked : Linked name number source target items links) {link : β}
    (atSource : source link ∈ items.map name) (atTarget : target link ∈ items.map name) :
    Linked name number source target items (links ++ [link]) := by
  refine ⟨linked.numbered, ?_⟩
  intro other member
  rcases List.mem_append.mp member with earlier | last
  · exact linked.known other earlier
  · rw [List.mem_singleton.mp last]
    exact ⟨atSource, atTarget⟩

/-- Items may change where they keep their names and numbers. -/
theorem of_map_eq (linked : Linked name number source target items links) {others : List α}
    (sameNames : others.map name = items.map name)
    (sameNumbers : others.map number = items.map number) :
    Linked name number source target others links :=
  ⟨linked.numbered.of_map_eq sameNumbers, sameNames ▸ linked.known⟩

end Linked

namespace DeploymentDiagram

/-- The names of the nodes. -/
def names (diagram : DeploymentDiagram) : List String := diagram.nodes.map DeploymentNode.name

/-- Nodes have distinct names and are numbered, and connections join nodes. -/
structure Sound (diagram : DeploymentDiagram) : Prop where
  distinct : diagram.names.Nodup
  linked : Linked DeploymentNode.name DeploymentNode.id Connection.source Connection.target
    diagram.nodes diagram.connections

variable {diagram : DeploymentDiagram}

/-- The names after a node was added: those before, and its own. -/
theorem mem_names_addNode (diagram : DeploymentDiagram) (name label kind asked : String) :
    asked ∈ (diagram.addNode name label kind).names ↔ asked ∈ diagram.names ∨ asked = name := by
  rw [addNode]
  split
  · next known =>
    have inside : name ∈ diagram.names := any_key_iff.mp known
    constructor
    · exact .inl
    · rintro (old | rfl)
      · exact old
      · exact inside
  · simp [names]

/-- A node is added only if its name is new. -/
theorem Sound.addNode (sound : diagram.Sound) (name label kind : String) :
    (diagram.addNode name label kind).Sound := by
  rw [DeploymentDiagram.addNode]
  split
  · exact sound
  · next unknown =>
    refine ⟨nodup_map_concat sound.distinct ?_, sound.linked.addItem rfl⟩
    intro node inside same
    exact unknown (any_key_iff.mpr (List.mem_map.mpr ⟨node, inside, same⟩))

/-- A connection is added together with the nodes that it names. -/
theorem Sound.addConnection (sound : diagram.Sound) (connection : Connection) :
    (diagram.addConnection connection).Sound := by
  let first := diagram.addNode connection.source connection.source "node"
  let second := first.addNode connection.target connection.target "node"
  have both : second.Sound := (sound.addNode _ _ _).addNode _ _ _
  have atSource : connection.source ∈ second.names :=
    (mem_names_addNode ..).mpr (.inl ((mem_names_addNode ..).mpr (.inr rfl)))
  have atTarget : connection.target ∈ second.names := (mem_names_addNode ..).mpr (.inr rfl)
  exact ⟨both.distinct, both.linked.addLink atSource atTarget⟩

/-- Every line keeps a diagram sound. -/
theorem Sound.readLine (sound : diagram.Sound) (line : String) : (diagram.readLine line).Sound := by
  rw [DeploymentDiagram.readLine]
  split
  · exact sound.addNode _ _ _
  · exact sound.addConnection _
  · exact sound

/-- Whatever lines are read, the diagram is sound. -/
theorem sound_ofLines (lines : List String) : (ofLines lines).Sound := by
  exact List.foldlRecOn (motive := DeploymentDiagram.Sound) _ DeploymentDiagram.readLine
    ⟨List.nodup_nil, .nil⟩ fun _ sound line _ => sound.readLine line

end DeploymentDiagram

namespace EntityDiagram

/-- The names of the entities. -/
def names (diagram : EntityDiagram) : List String := diagram.entities.map Entity.name

/-- Entities are numbered, and relationships join entities. -/
def Sound (diagram : EntityDiagram) : Prop :=
  Linked Entity.name Entity.id Relationship.source Relationship.target diagram.entities
    diagram.relationships

namespace Progress

variable {progress : Progress}

/-- A declared entity is added, whether its name is new or not. -/
theorem addEntity_sound (sound : progress.diagram.Sound) (name label : String) :
    (progress.addEntity name label).diagram.Sound :=
  sound.addItem rfl

/-- The entity that a relationship names is there afterwards, and names that were there
remain. -/
theorem ensure_sound (sound : progress.diagram.Sound) (name : String) :
    (progress.ensure name).diagram.Sound ∧ name ∈ (progress.ensure name).diagram.names ∧
      progress.diagram.names ⊆ (progress.ensure name).diagram.names := by
  rw [ensure]
  split
  · next known => exact ⟨sound, any_key_iff.mp known, List.Subset.refl _⟩
  · refine ⟨addEntity_sound sound name name, ?_, ?_⟩
    · simp [addEntity, names]
    · intro other member
      have kept : other ∈ progress.diagram.names ++ [name] := List.mem_append_left _ member
      simpa [addEntity, names] using kept

/-- A column is added to an entity, whose name and number stay. -/
theorem addAttribute_sound (sound : progress.diagram.Sound) (position : Nat)
    (column : EntityAttribute) : (progress.addAttribute position column).diagram.Sound := by
  let extend (entity : Entity) : Entity :=
    { entity with attributes := entity.attributes ++ [column] }
  have names : ∀ entity, (extend entity).name = entity.name := fun _ => rfl
  have numbers : ∀ entity, (extend entity).id = entity.id := fun _ => rfl
  exact sound.of_map_eq (map_modify_of_blind names _ _) (map_modify_of_blind numbers _ _)

/-- A relationship is added together with the entities that it names. -/
theorem readRelationship_sound (sound : progress.diagram.Sound) (line : String) :
    (progress.readRelationship line).diagram.Sound := by
  rw [readRelationship]
  split
  · next relationship _ =>
    obtain ⟨first, atSource, _⟩ := ensure_sound sound relationship.source
    obtain ⟨second, atTarget, kept⟩ := ensure_sound first relationship.target
    exact second.addLink (kept atSource) atTarget
  · exact sound

/-- Every line keeps a diagram sound. -/
theorem readLine_sound (sound : progress.diagram.Sound) (line : String) :
    (progress.readLine line).diagram.Sound := by
  rw [readLine]
  split
  · exact addEntity_sound sound _ _
  · split
    · exact sound
    · split
      · split
        · split
          · exact addAttribute_sound sound _ _
          · exact sound
        · exact readRelationship_sound sound line
      · exact readRelationship_sound sound line

end Progress

/-- Whatever lines are read, the diagram is sound. -/
theorem sound_ofLines (lines : List String) : (ofLines lines).Sound := by
  exact List.foldlRecOn (motive := fun progress : Progress => progress.diagram.Sound) _
    Progress.readLine .nil fun progress sound line _ => progress.readLine_sound sound line

end EntityDiagram

/-- A cell links, with a label and a style, the boxes of two items that have given names. -/
def JoinsNamed (name : α → String) (drawn : List (α × Cell)) (source target label style : String)
    (cell : Cell) : Prop :=
  ∃ first ∈ drawn, ∃ last ∈ drawn, name first.1 = source ∧ name last.1 = target ∧
    cell.body = (label, style, Cell.layerId, .link first.2.id last.2.id)

/-- Where the nodes of a network are known by names and its links by the names of their ends,
no link between names of items is lost in the drawing. -/
theorem Network.DrawnBy.joinsNamed {nodeOf : α → Network.Node} {linkOf : β → Link}
    {stem : String} {cells : List Cell}
    (drawnBy : Network.DrawnBy ⟨items.map nodeOf, links.map linkOf⟩ stem cells)
    (linked : Linked name number source target items links)
    (keys : ∀ item, (nodeOf item).key = .name (name item))
    (sources : ∀ link, (linkOf link).source = .name (source link))
    (targets : ∀ link, (linkOf link).target = .name (target link)) :
    ∃ drawn : List (α × Cell), drawn.map Prod.fst = items ∧
      (drawn.map Prod.snd).Sublist (cells.filter Cell.isBox) ∧
      (∀ pair ∈ drawn, pair.2.value = (nodeOf pair.1).label ∧
        pair.2.style = (nodeOf pair.1).style ∧ pair.2.parent = Cell.layerId) ∧
      List.Forall₂ (fun link cell => JoinsNamed name drawn (source link) (target link)
          (linkOf link).value (linkOf link).style cell)
        links (cells.filter fun cell => !cell.isBox) := by
  have itemOf {asked : String} (known : asked ∈ items.map name) :
      ∃ item ∈ items, (nodeOf item).key = .name asked := by
    obtain ⟨item, member, rfl⟩ := List.mem_map.mp known
    exact ⟨item, member, keys item⟩
  have known : ∀ link ∈ links.map linkOf,
      (∃ item ∈ items, (nodeOf item).key = link.source) ∧
        ∃ item ∈ items, (nodeOf item).key = link.target := by
    intro _ member
    obtain ⟨link, inside, rfl⟩ := List.mem_map.mp member
    obtain ⟨atSource, atTarget⟩ := linked.known link inside
    rw [sources link, targets link]
    exact ⟨itemOf atSource, itemOf atTarget⟩
  obtain ⟨drawn, same, boxes, depicts, joined⟩ := drawnBy.joined known
  refine ⟨drawn, same, boxes, depicts, (List.forall₂_map_left_iff.mp joined).imp ?_⟩
  rintro link cell ⟨first, firstDrawn, last, lastDrawn, firstKey, lastKey, body⟩
  have atSource : Key.name (name first.1) = .name (source link) :=
    (keys first.1).symm.trans (firstKey.trans (sources link))
  have atTarget : Key.name (name last.1) = .name (target link) :=
    (keys last.1).symm.trans (lastKey.trans (targets link))
  exact ⟨first, firstDrawn, last, lastDrawn, Key.name.inj atSource, Key.name.inj atTarget, body⟩

/-- Whatever lines are read, the nodes of a deployment diagram have distinct names and are
numbered by their positions, and every connection joins two of them; every relationship of an
entity relationship diagram joins two of its entities, which are numbered alike. In the
drawing every node or entity has its box, and the other cells are one link for each connection
or relationship, in order and between boxes with the names of its ends. -/
theorem connections_drawn (stem : String) (lines : List String) :
    (let diagram := DeploymentDiagram.ofLines lines
      let cells := (Diagram.deployment diagram).cells stem
      diagram.names.Nodup ∧
        Linked DeploymentNode.name DeploymentNode.id Connection.source Connection.target
          diagram.nodes diagram.connections ∧
        ∃ drawn : List (DeploymentNode × Cell), drawn.map Prod.fst = diagram.nodes ∧
          (drawn.map Prod.snd).Sublist (cells.filter Cell.isBox) ∧
          (∀ pair ∈ drawn, pair.2.value = pair.1.label ∧
            pair.2.style = (DeploymentNode.shape pair.1.kind).1 ∧
            pair.2.parent = Cell.layerId) ∧
          List.Forall₂ (fun connection cell => JoinsNamed DeploymentNode.name drawn
              connection.source connection.target connection.label
              (DeploymentDiagram.connectionStyle connection) cell)
            diagram.connections (cells.filter fun cell => !cell.isBox)) ∧
    (let diagram := EntityDiagram.ofLines lines
      let cells := (Diagram.entities diagram).cells stem
      Linked Entity.name Entity.id Relationship.source Relationship.target diagram.entities
          diagram.relationships ∧
        ∃ drawn : List (Entity × Cell), drawn.map Prod.fst = diagram.entities ∧
          (drawn.map Prod.snd).Sublist (cells.filter Cell.isBox) ∧
          (∀ pair ∈ drawn, pair.2.value = pair.1.label ∧
            pair.2.style = Style.stackedBox .blue "0" ∧ pair.2.parent = Cell.layerId) ∧
          List.Forall₂ (fun relationship cell => JoinsNamed Entity.name drawn
              relationship.source relationship.target relationship.label
              EntityDiagram.relationshipStyle cell)
            diagram.relationships (cells.filter fun cell => !cell.isBox)) := by
  have nodes := DeploymentDiagram.sound_ofLines lines
  have entities := EntityDiagram.sound_ofLines lines
  refine ⟨⟨nodes.distinct, nodes.linked, ?_⟩, entities, ?_⟩
  · exact (DeploymentDiagram.cellsOf_figures stem _).joinsNamed nodes.linked
      (fun _ => rfl) (fun _ => rfl) fun _ => rfl
  · exact (EntityDiagram.cellsOf_figures stem _).joinsNamed entities
      (fun _ => rfl) (fun _ => rfl) fun _ => rfl

end Drafting
