import Drafting.Diagram.Drawing
import Drafting.Proofs.Grid

/-!
# Overlapping boxes

Classes and actors, and likewise entities, are placed on grids. A row of such a grid lies a fixed
distance below the last box of the row before it. Where an earlier box of that row has more members
than the last one, it may reach into the box below it.

The main statement tells for every class diagram and for every entity relationship diagram whether
its boxes are apart: only boxes that stand directly one below the other can meet, and they do so
exactly if the upper one has at least three members more than the last box of its row, or four
attributes more where the boxes are entities.
-/

namespace Drafting

/-- The frames of the nodes of a diagram, in the order in which they are drawn. -/
def Diagram.frames (stem : String) (diagram : Diagram) : List Box :=
  (diagram.cells stem).filterMap Cell.frame?

namespace ClassDiagram

/-- How many members an item shows. An actor has none. -/
def Item.members : Item → Nat
  | .box inner => inner.attributes.length + inner.methods.length
  | .actor _ => 0

/-- The width of an item. -/
def Item.width : Item → Int
  | .box _ => ClassBox.width
  | .actor _ => 30

/-- The height of an item grows with its members. -/
def Item.height (item : Item) : Int := 60 + item.members * 20

/-- The row below an item that ends its row leaves a gap. -/
theorem Item.drop_eq (item : Item) : item.drop = item.height + 60 := by
  cases item with
  | box inner => simp [drop, height, members, ClassBox.height]
  | actor person => rfl

/-- An item ends above the next row exactly if it has at most two members more than the one that
ends its row. -/
theorem Item.height_lt_drop_iff (upper last : Item) :
    upper.height < last.drop ↔ upper.members ≤ last.members + 2 := by
  rw [Item.drop_eq, height, height]
  omega

/-- The frame of an item has its size. -/
theorem Item.figure_frame (item : Item) (x y : Int) :
    (item.figure x y).frame? = some (.ofInt x y item.width item.height) := by
  cases item with
  | box inner =>
    simp [figure, ClassBox.figure, Figure.frame?, width, height, members, ClassBox.height]
  | actor person => rfl

/-- Items fit into the columns of the grid. -/
theorem grid_fits : grid.Fits Item.width Item.height Item.drop where
  columns := by decide
  sizedWidth item := by cases item <;> simp [Item.width, ClassBox.width]
  sizedHeight item := by
    rw [Item.height]
    omega
  narrow item := by cases item <;> simp [Item.width, ClassBox.width, grid]
  downwards item := by
    rw [Item.drop_eq, Item.height]
    omega

/-- The frames of a class diagram are those of its items on the grid. -/
theorem frames_classes (diagram : ClassDiagram) (stem : String) :
    (Diagram.classes diagram).frames stem =
      diagram.items.mapIdx
        (grid.frameAt Item.width Item.height Item.drop 40 diagram.items) := by
  refine (frames_cellsOf stem _).trans ?_
  refine grid.frames_spread Item.drop 40 Item.figure Item.figure_frame ?_ diagram.items
  intro link member
  obtain ⟨relation, _, rfl⟩ := List.mem_map.mp member
  rfl

end ClassDiagram

namespace EntityDiagram

/-- How far the next row lies below an entity that ends a row. -/
def drop (entity : Entity) : Int := entity.height + 80

/-- An entity ends above the next row exactly if it has at most three attributes more than the one
that ends its row. -/
theorem height_lt_drop_iff (upper last : Entity) :
    upper.height < drop last ↔ upper.attributes.length ≤ last.attributes.length + 3 := by
  rw [drop, Entity.height, Entity.height]
  omega

/-- Entities fit into the columns of the grid. -/
theorem grid_fits : grid.Fits (fun _ => Entity.width) Entity.height drop where
  columns := by decide
  sizedWidth _ := by decide
  sizedHeight entity := by
    rw [Entity.height]
    omega
  narrow _ := by decide
  downwards entity := by
    rw [drop, Entity.height]
    omega

/-- The frames of an entity relationship diagram are those of its entities on the grid. -/
theorem frames_entities (diagram : EntityDiagram) (stem : String) :
    (Diagram.entities diagram).frames stem =
      diagram.entities.mapIdx
        (grid.frameAt (fun _ => Entity.width) Entity.height drop 50 diagram.entities) := by
  refine (frames_cellsOf stem _).trans ?_
  refine grid.frames_spread drop 50 Entity.figure (fun _ _ _ => rfl) ?_ diagram.entities
  intro link member
  obtain ⟨relationship, _, rfl⟩ := List.mem_map.mp member
  rfl

end EntityDiagram

/-- Every class and every actor of a class diagram, and every entity of an entity relationship
diagram, has a frame, which grows with its members. The frames are apart from each other exactly if
none with another one below it in the next row has too many members more than the last of its row,
that is, more than two on the grid of classes and more than three on the grid of entities. -/
theorem frames_apart_iff (classes : ClassDiagram) (entities : EntityDiagram) (stem : String) :
    let classFrames := (Diagram.classes classes).frames stem
    let entityFrames := (Diagram.entities entities).frames stem
    (classFrames.map Box.height =
        classes.items.map (fun item => ((60 + item.members * 20 : Int) : Rat)) ∧
      (classFrames.Pairwise Box.Apart ↔
        ∀ index upper last, classes.items[index]? = some upper →
          classes.items[index / 4 * 4 + 3]? = some last → index + 4 < classes.items.length →
          upper.members ≤ last.members + 2)) ∧
    (entityFrames.map Box.height =
        entities.entities.map (fun entity => ((30 + entity.attributes.length * 20 : Int) : Rat)) ∧
      (entityFrames.Pairwise Box.Apart ↔
        ∀ index upper last, entities.entities[index]? = some upper →
          entities.entities[index / 3 * 3 + 2]? = some last →
          index + 3 < entities.entities.length →
          upper.attributes.length ≤ last.attributes.length + 3)) := by
  intro classFrames entityFrames
  constructor
  · have places : classFrames = _ := classes.frames_classes stem
    rw [places, ClassDiagram.grid.map_height_frameAt, ClassDiagram.grid_fits.pairwise_apart_iff]
    simp only [ClassDiagram.Item.height_lt_drop_iff]
    exact ⟨rfl, Iff.rfl⟩
  · have places : entityFrames = _ := entities.frames_entities stem
    rw [places, EntityDiagram.grid.map_height_frameAt, EntityDiagram.grid_fits.pairwise_apart_iff]
    simp only [EntityDiagram.height_lt_drop_iff]
    exact ⟨rfl, Iff.rfl⟩

/-- A class with four attributes at the beginning of a row of empty classes meets the class below
it: it reaches down to 180, and the class below begins at 160. So it is with an entity that has
five attributes. -/
theorem tall_box_meets_lower :
    let classes : List ClassBox :=
      [⟨"A", .concrete, ["a", "b", "c", "d"].map fun name => ⟨name, "", "+", false⟩, []⟩,
        ⟨"B", .concrete, [], []⟩, ⟨"C", .concrete, [], []⟩, ⟨"D", .concrete, [], []⟩,
        ⟨"E", .concrete, [], []⟩]
    let entities : List Entity :=
      [⟨1, "A", "A", ["a", "b", "c", "d", "e"].map fun name => ⟨name, "", false⟩⟩,
        ⟨2, "B", "B", []⟩, ⟨3, "C", "C", []⟩, ⟨4, "D", "D", []⟩]
    ¬((Diagram.classes ⟨classes, [], []⟩).frames "p").Pairwise Box.Apart ∧
      ¬((Diagram.entities ⟨entities, []⟩).frames "p").Pairwise Box.Apart := by
  intro classes entities
  constructor
  · rw [ClassDiagram.frames_classes, ClassDiagram.grid_fits.pairwise_apart_iff]
    intro low
    have clear : (140 : Int) < 120 := low 0 _ _ rfl rfl (by decide)
    contradiction
  · rw [EntityDiagram.frames_entities, EntityDiagram.grid_fits.pairwise_apart_iff]
    intro low
    have clear : (130 : Int) < 110 := low 0 _ _ rfl rfl (by decide)
    contradiction

end Drafting
