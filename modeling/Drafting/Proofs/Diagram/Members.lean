import Drafting.Proofs.Canvas.Contents
import Drafting.Proofs.Diagram.Overlaps

/-!
# Members in boxes

The height of a class or an entity is computed from the number of its members before its rows are
laid out. The rows come one below the other, with a divider between attributes and methods where
there are both, and the height leaves room for it.

The main statement is that every box of a class diagram and of an entity relationship diagram holds
one row for each member, in order and between its header and its lower edge.
-/

namespace Drafting

namespace Box

/-- Rectangles stand one below the other between two heights. -/
structure Stacked (top bottom : Int) (boxes : List Box) : Prop where
  sized : ∀ box ∈ boxes, 0 < box.height
  between : ∀ box ∈ boxes, box.LiesBetween top bottom
  below : boxes.Pairwise fun upper lower => upper.y + upper.height ≤ lower.y

variable {top middle bottom : Int} {upper lower : List Box}

/-- No rectangle stands anywhere. -/
theorem Stacked.nil (top bottom : Int) : Stacked top bottom [] where
  sized := by simp
  between := by simp
  below := .nil

/-- A single rectangle stands between its edges. -/
theorem Stacked.single (x y width height : Int) (sized : 0 < height) :
    Stacked y (y + height) [.ofInt x y width height] where
  sized := by
    rw [List.forall_mem_singleton]
    exact Rat.intCast_pos.mpr sized
  between := by
    rw [List.forall_mem_singleton, liesBetween_ofInt_iff]
    exact ⟨le_rfl, le_rfl⟩
  below := List.pairwise_singleton _ _

/-- More room does no harm. -/
theorem Stacked.mono (stacked : Stacked top middle upper) (room : middle ≤ bottom) :
    Stacked top bottom upper where
  sized := stacked.sized
  between box member := by
    obtain ⟨above, below⟩ := stacked.between box member
    exact ⟨above, below.trans (Rat.intCast_le_intCast.mpr room)⟩
  below := stacked.below

/-- Rectangles below others continue the stack. -/
theorem Stacked.append (first : Stacked top middle upper) (second : Stacked middle bottom lower)
    (before : top ≤ middle) (behind : middle ≤ bottom) : Stacked top bottom (upper ++ lower) where
  sized := List.forall_mem_append.mpr ⟨first.sized, second.sized⟩
  between := by
    refine List.forall_mem_append.mpr ⟨(first.mono behind).between, ?_⟩
    intro box member
    obtain ⟨above, below⟩ := second.between box member
    exact ⟨(Rat.intCast_le_intCast.mpr before).trans above, below⟩
  below := by
    refine List.pairwise_append.mpr ⟨first.below, second.below, ?_⟩
    intro box member other otherMember
    exact (first.between box member).2.trans (second.between other otherMember).1

/-- Stacked rectangles begin further and further down, and have no inner points in common. -/
theorem Stacked.pairwise_apart (stacked : Stacked top bottom upper) :
    upper.Pairwise fun first second => first.y < second.y ∧ first.InteriorsApart second := by
  refine stacked.below.imp_of_mem ?_
  intro first second member _ below
  have sized := stacked.sized first member
  exact ⟨(lt_add_of_pos_right _ sized).trans_le below, interiorsApart_of_below below⟩

end Box

/-- Rows of equal height, one below the other. -/
def Row.column {α : Type} (caption : α → String × String) (width top : Int) : List α → List Row
  | [] => []
  | item :: others =>
    ⟨(caption item).1, (caption item).2, .ofInt 0 top width 20⟩ ::
      column caption width (top + 20) others

/-- What a row says, and how it looks. -/
def Row.caption (row : Row) : String × String := (row.value, row.style)

section Column

variable {α : Type} (caption : α → String × String) (width top : Int) (items : List α)

/-- A column has a row for each item. -/
theorem Row.map_caption_column :
    (Row.column caption width top items).map Row.caption = items.map caption := by
  induction items generalizing top with
  | nil => rfl
  | cons item others inductionHypothesis =>
    rw [column, List.map_cons, List.map_cons, inductionHypothesis]
    rfl

/-- The rows of a column stand below its top. -/
theorem Row.column_stacked : Box.Stacked top (top + items.length * 20)
    ((Row.column caption width top items).map Row.place) := by
  induction items generalizing top with
  | nil => exact .nil _ _
  | cons item others inductionHypothesis =>
    have own := Box.Stacked.single 0 top width 20 (by decide)
    have rest := inductionHypothesis (top + 20)
    have whole := own.append rest (by omega) (by omega)
    refine whole.mono ?_
    rw [List.length_cons]
    omega

end Column

namespace ClassBox

/-- What the row of a member says, and how it looks. -/
def memberCaption (member : ClassMember) : String × String := (member.display, Style.row)

/-- What the rows of a class say, and how they look. -/
def captions (box : ClassBox) : List (String × String) :=
  box.attributes.map memberCaption ++
    (if box.attributes.isEmpty || box.methods.isEmpty then [] else [("", Style.divider)]) ++
    box.methods.map memberCaption

/-- The rows of members are a column. -/
theorem memberRows_eq (top : Int) (members : List ClassMember) :
    memberRows top members = Row.column memberCaption width top members := by
  induction members generalizing top with
  | nil => rfl
  | cons member others inductionHypothesis =>
    rw [memberRows, inductionHypothesis]
    rfl

/-- A class has a row for each member, and a divider where it has both kinds of members. -/
theorem map_caption_rows (box : ClassBox) : box.rows.map Row.caption = box.captions := by
  simp only [rows, dividerRows, captions, memberRows_eq]
  split <;> simp [Row.map_caption_column, Row.caption]

/-- The rows of a class stand between its header and its lower edge. -/
theorem rows_stacked (box : ClassBox) : Box.Stacked 26 box.height (box.rows.map Row.place) := by
  have attributes := Row.column_stacked memberCaption width 26 box.attributes
  simp only [rows, dividerRows, memberRows_eq, height]
  split
  · have methods := Row.column_stacked memberCaption width (26 + box.attributes.length * 20)
      box.methods
    rw [List.append_nil, List.map_append]
    exact (attributes.append methods (by omega) (by omega)).mono (by omega)
  · have divider := Box.Stacked.single 0 (26 + box.attributes.length * 20) width 8 (by decide)
    have methods := Row.column_stacked memberCaption width (26 + box.attributes.length * 20 + 8)
      box.methods
    have upper := attributes.append divider (by omega) (by omega)
    rw [List.map_append, List.map_append]
    exact (upper.append methods (by omega) (by omega)).mono (by omega)

end ClassBox

namespace Entity

/-- What the row of an attribute says, and how it looks. -/
def attributeCaption (column : EntityAttribute) : String × String :=
  (column.display, if column.isPrimaryKey then Style.underlinedRow else Style.row)

/-- The rows of attributes are a column. -/
theorem attributeRows_eq (top : Int) (attributes : List EntityAttribute) :
    attributeRows top attributes = Row.column attributeCaption width top attributes := by
  induction attributes generalizing top with
  | nil => rfl
  | cons column others inductionHypothesis =>
    rw [attributeRows, inductionHypothesis]
    rfl

end Entity

/-- A box holds some captions: the cells inside it show them, in order. These are rectangles that
begin at the lower edge of its header, which is twenty-six high, or further down, and end at its own
lower edge or above. They come one below the other and have no inner points in common. -/
def Cell.Holds (cells : List Cell) (captions : List (String × String)) (box : Cell) : Prop :=
  ∃ (place : Box) (rows : List Box), box.shape = .box place ∧
    (contents cells box).map (fun cell => (cell.value, cell.style)) = captions ∧
    (contents cells box).map Cell.shape = rows.map .box ∧
    (∀ row ∈ rows, 26 ≤ row.y ∧ row.y + row.height ≤ place.height) ∧
    rows.Pairwise fun upper lower => upper.y < lower.y ∧ upper.InteriorsApart lower

/-- A box that shows a node with stacked rows holds their captions. -/
theorem Figure.ShownBy.holds {cells : List Cell} {key : Option Key} {value style : String}
    {x y width height : Int} {anchor : Option Point} {rows : List Row} {box : Cell}
    (shown : (Figure.node key value style (.ofInt x y width height) anchor rows).ShownBy cells box)
    (stacked : Box.Stacked 26 height (rows.map Row.place)) :
    box.value = value ∧ box.Holds cells (rows.map Row.caption) := by
  obtain ⟨_, _, _, place, _, node, shape, contents⟩ := shown
  obtain ⟨rfl, rfl, rfl, rfl, rfl, rfl⟩ := Figure.node.inj node
  refine ⟨rfl, _, rows.map Row.place, shape, ?_, ?_, stacked.between, stacked.pairwise_apart⟩
  · have captions := congrArg (List.map fun body => (body.1, body.2.1)) contents
    rw [List.map_map, List.map_map] at captions
    exact captions
  · have shapes := congrArg (List.map fun body => body.2.2.2) contents
    rw [List.map_map, List.map_map] at shapes
    rw [List.map_map]
    exact shapes

/-- The boxes on the layer show the items of a grid, in order, where no other figure is a node. -/
theorem Grid.forall₂_shown {α : Type} (grid : Grid) (drop : α → Int) (cursor : Grid.Cursor)
    (figure : α → Int → Int → Figure) (nodes : ∀ item x y, (figure item x y).isNode = true)
    (others : List Figure) (none : ∀ other ∈ others, other.isNode = false) (items : List α)
    (stem : String) :
    let cells := cellsOf stem ((grid.spread drop cursor items).map
      (fun (item, corner) => figure item corner.x corner.y) ++ others)
    List.Forall₂ (fun item box => ∃ x y, (figure item x y).ShownBy cells box) items
      (cells.filter Cell.isOuterBox) := by
  intro cells
  have shown := cellsOf_shows stem ((grid.spread drop cursor items).map
    (fun (item, corner) => figure item corner.x corner.y) ++ others)
  have all : ∀ node ∈ (grid.spread drop cursor items).map
      (fun (item, corner) => figure item corner.x corner.y), node.isNode = true :=
    List.forall_mem_map.mpr fun _ _ => nodes _ _ _
  rw [List.filter_append, List.filter_eq_self.mpr all,
    List.filter_eq_nil_iff.mpr fun other member => by simp [none other member],
    List.append_nil, List.forall₂_map_left_iff] at shown
  rw [← grid.spread_items drop cursor items, List.forall₂_map_left_iff]
  exact shown.imp fun _ _ own => ⟨_, _, own⟩

namespace ClassDiagram.Item

/-- What is written on an item. -/
def label : Item → String
  | .box inner => inner.name
  | .actor person => person.label

/-- What the rows of an item say, and how they look. An actor has none. -/
def captions : Item → List (String × String)
  | .box inner => inner.captions
  | .actor _ => []

/-- A box that shows an item holds its captions. -/
theorem holds_of_shown {item : Item} {x y : Int} {cells : List Cell} {box : Cell}
    (shown : (item.figure x y).ShownBy cells box) :
    box.value = item.label ∧ box.Holds cells item.captions := by
  cases item with
  | box inner =>
    obtain ⟨value, held⟩ := shown.holds inner.rows_stacked
    rw [inner.map_caption_rows] at held
    exact ⟨value, held⟩
  | actor person => exact shown.holds (.nil 26 60)

end ClassDiagram.Item

/-- What the rows of an entity say, and how they look. -/
def Entity.captions (entity : Entity) : List (String × String) :=
  entity.attributes.map Entity.attributeCaption

/-- A box that shows an entity holds its captions. -/
theorem Entity.holds_of_shown {entity : Entity} {x y : Int} {cells : List Cell} {box : Cell}
    (shown : (entity.figure x y).ShownBy cells box) :
    box.value = entity.label ∧ box.Holds cells entity.captions := by
  have rows := Row.column_stacked attributeCaption width 26 entity.attributes
  rw [figure, attributeRows_eq] at shown
  obtain ⟨value, held⟩ := shown.holds (rows.mono (by rw [height]; omega))
  rw [Row.map_caption_column] at held
  exact ⟨value, held⟩

/-- The boxes of a class diagram are those of its classes and, behind them, its actors, and those of
an entity relationship diagram are those of its entities. Each box holds one row for each member of
its class, attributes before methods with a divider between them where there are both, or one row
for each attribute of its entity. An actor holds nothing. -/
theorem members_held (classes : ClassDiagram) (entities : EntityDiagram) (stem : String) :
    let classCells := (Diagram.classes classes).cells stem
    let entityCells := (Diagram.entities entities).cells stem
    List.Forall₂ (fun item box => box.value = item.label ∧ box.Holds classCells item.captions)
      classes.items (classCells.filter Cell.isOuterBox) ∧
    List.Forall₂
      (fun entity box => box.value = entity.label ∧ box.Holds entityCells entity.captions)
      entities.entities (entityCells.filter Cell.isOuterBox) := by
  intro classCells entityCells
  constructor
  · have shown := ClassDiagram.grid.forall₂_shown ClassDiagram.Item.drop
      (ClassDiagram.grid.start 40) ClassDiagram.Item.figure (fun item _ _ => by cases item <;> rfl)
      (classes.relations.map fun relation => .link relation.label relation.kind.style
        (.name relation.source) (.name relation.target))
      (List.forall_mem_map.mpr fun _ _ => rfl) classes.items stem
    refine shown.imp ?_
    rintro item box ⟨x, y, own⟩
    exact ClassDiagram.Item.holds_of_shown own
  · have shown := EntityDiagram.grid.forall₂_shown EntityDiagram.drop (EntityDiagram.grid.start 50)
      Entity.figure (fun _ _ _ => rfl)
      (entities.relationships.map fun relationship =>
        .link relationship.label EntityDiagram.relationshipStyle (.name relationship.source)
          (.name relationship.target))
      (List.forall_mem_map.mpr fun _ _ => rfl) entities.entities stem
    refine shown.imp ?_
    rintro entity box ⟨x, y, own⟩
    exact Entity.holds_of_shown own

end Drafting
