import Drafting.Proofs.Canvas.Flat
import Drafting.Proofs.Correspondence
import Drafting.Proofs.SequenceDiagram.Registration

/-!
# Messages between lifelines

The heights of heads, lifelines, messages and separators are computed apart from each
other, each from its own number. They fit together since a message is numbered by its
position: it lies below all heads and above the ends of all lifelines, it lies above the
messages behind it, and a separator lies in the gap before the message it is numbered by.

A message whose ends are not both drawn would be passed over. Since its ends are registered
with it, this never happens.

The main statement describes the drawing of every diagram that is read.
-/

namespace Drafting.SequenceDiagram

/-- A participant as it is drawn: its head, and its lifeline. -/
structure Column where
  participant : Participant
  head : Cell
  lifeline : Cell
  deriving DecidableEq, Repr

/-- The head shows the participant, and the lifeline hangs below the middle of the head. -/
def Column.Hangs (column : Column) : Prop :=
  ∃ left top width height bottom : Int, top + height ≤ bottom ∧
    column.head.body = (column.participant.label,
      Participant.styleOf column.participant.kind, Cell.layerId,
      .box (.ofInt left top width height)) ∧
    column.lifeline.body = ("", Participant.lifelineStyle, Cell.layerId,
      .line (.ofInt (left + width / 2) (top + height)) (.ofInt (left + width / 2) bottom))

/-- A point lies on the lifeline of a participant of the given name. -/
def Touches (columns : List Column) (name : String) (point : Point) : Prop :=
  ∃ column ∈ columns, column.participant.name = name ∧ column.lifeline.PassesThrough point

/-- A cell is the arrow of a message: it carries the text, and it leads at one height from
the lifeline of the source to that of the target. -/
def Spans (columns : List Column) (message : Message) (arrow : Cell) : Prop :=
  ∃ start stop : Point,
    arrow.body = (message.text, messageStyle message, Cell.layerId, .line start stop) ∧
      start.y = stop.y ∧ Touches columns message.source start ∧
      Touches columns message.target stop

/-- Two cells are the line and the label of a separator. The arrows before its number lie
above both, and both lie above the other arrows. -/
def Separates (arrows : List Cell) (group : MessageGroup) (separator : List Cell) : Prop :=
  separator.map (fun cell => (cell.value, cell.style)) =
      [("", groupLineStyle), (group.label, groupLabelStyle)] ∧
    ∀ part ∈ separator,
      (∀ arrow ∈ arrows.take group.startIndex.toNat, arrow.Above part) ∧
        ∀ arrow ∈ arrows.drop group.startIndex.toNat, part.Above arrow

/-- Cells draw a diagram if their boxes are the heads of its participants, its separators,
and frames and notes, and their lines are the lifelines of the participants and one arrow
for each message. Arrows stand in the order of the messages and lie one below the other. -/
def DrawnBy (diagram : SequenceDiagram) (cells : List Cell) : Prop :=
  ∃ (columns : List Column) (separators : List (List Cell)) (others arrows : List Cell),
    columns.map Column.participant = diagram.participants ∧
    (∀ column ∈ columns, column.Hangs) ∧
    cells.filter Cell.isBox = columns.map Column.head ++ separators.flatten ++ others ∧
    (cells.filter fun cell => !cell.isBox) = columns.map Column.lifeline ++ arrows ∧
    List.Forall₂ (Spans columns) diagram.messages arrows ∧
    arrows.Pairwise Cell.Above ∧
    List.Forall₂ (Separates arrows) diagram.groups separators

/-- The lifelines are those of the participants. -/
theorem map_fst_lifelines (left : Int) (participants : List Participant) :
    (Participant.lifelines left participants).map Prod.fst = participants := by
  induction participants generalizing left with
  | nil => rfl
  | cons participant others inductionHypothesis =>
    exact congrArg (participant :: ·) (inductionHypothesis (left + 150))

section Figures

variable (diagram : SequenceDiagram)

/-- The room below the heads that all messages need. -/
def depth : Int := 100 + diagram.messages.length * 50

/-- The head of a participant whose lifeline stands at a given place. -/
def headBody (placed : Participant × Int) : String × String × String × Cell.Shape :=
  let own := Participant.widthOf placed.1.kind
  (placed.1.label, Participant.styleOf placed.1.kind, Cell.layerId,
    .box (.ofInt (placed.2 - Participant.width / 2 + (Participant.width - own) / 2)
      Participant.top own (Participant.heightOf placed.1.kind)))

/-- The lifeline of a participant. -/
def lifelineBody (placed : Participant × Int) : String × String × String × Cell.Shape :=
  let bottom := Participant.top + Participant.heightOf placed.1.kind
  ("", Participant.lifelineStyle, Cell.layerId,
    .line (.ofInt placed.2 bottom) (.ofInt placed.2 (bottom + diagram.depth)))

/-- The arrow of a message, if both its ends are drawn. -/
def arrowBody? (message : Message) : Option (String × String × String × Cell.Shape) := do
  let start ← diagram.lifelineOf? message.source
  let stop ← diagram.lifelineOf? message.target
  let top := messageTop message.id
  return (message.text, messageStyle message, Cell.layerId,
    .line (.ofInt start top) (.ofInt stop top))

/-- The note beside a message is a box without rows. -/
theorem mem_noteFigures {message : Message} {left top : Int} {figure : Figure}
    (member : figure ∈ noteFigures message left top) :
    ∃ value style place, figure = .plain value style place := by
  rw [noteFigures] at member
  split at member
  · contradiction
  · exact ⟨_, _, _, List.mem_singleton.mp member⟩

/-- No figure of a sequence diagram is a link, and none has rows. -/
theorem figures_isFlat : ∀ figure ∈ diagram.figures, figure.isFlat = true := by
  intro figure member
  rcases List.mem_append.mp member with background | message
  · rcases List.mem_append.mp background with front | frame
    · rcases List.mem_append.mp front with column | separator
      · obtain ⟨placed, _, inside⟩ := List.mem_flatMap.mp column
        rcases List.mem_pair.mp inside with rfl | rfl <;> rfl
      · obtain ⟨group, _, inside⟩ := List.mem_flatMap.mp separator
        rcases List.mem_pair.mp inside with rfl | rfl <;> rfl
    · obtain ⟨fragment, _, rfl⟩ := List.mem_map.mp frame
      rfl
  · obtain ⟨message, _, inside⟩ := List.mem_flatMap.mp message
    rw [messageFigures] at inside
    split at inside
    · rcases List.mem_cons.mp inside with rfl | note
      · rfl
      · obtain ⟨value, style, place, rfl⟩ := mem_noteFigures note
        rfl
    · contradiction

/-- The only line of a message is its arrow. -/
theorem messageFigures_lines (message : Message) :
    (diagram.messageFigures message).filterMap Figure.line? =
      (diagram.arrowBody? message).toList := by
  rw [messageFigures, arrowBody?]
  cases diagram.lifelineOf? message.source with
  | none => rfl
  | some start =>
    cases diagram.lifelineOf? message.target with
    | none => rfl
    | some stop =>
      refine congrArg (_ :: ·) (List.filterMap_eq_nil_iff.mpr ?_)
      intro figure note
      obtain ⟨value, style, place, rfl⟩ := mem_noteFigures note
      rfl

/-- The figures of all participants. -/
def columnFigures : List Figure :=
  diagram.lifelines.flatMap fun placed => placed.1.figures placed.2 diagram.depth

/-- The figures in the order in which they are drawn. -/
theorem figures_eq : diagram.figures =
    diagram.columnFigures ++ diagram.groups.flatMap (groupFigures diagram.totalWidth) ++
      diagram.fragments.map diagram.fragmentFigure ++
      diagram.messages.flatMap diagram.messageFigures := rfl

/-- The lines of the figures are the lifelines and, behind them, the arrows. -/
theorem figures_lines : diagram.figures.filterMap Figure.line? =
    diagram.lifelines.map diagram.lifelineBody ++
      diagram.messages.filterMap diagram.arrowBody? := by
  have columns : diagram.columnFigures.filterMap Figure.line? =
      diagram.lifelines.map diagram.lifelineBody := by
    rw [columnFigures, List.filterMap_flatMap, List.map_eq_flatMap]
    rfl
  have separators : (diagram.groups.flatMap (groupFigures diagram.totalWidth)).filterMap
      Figure.line? = [] := by
    rw [List.filterMap_flatMap]
    exact List.flatMap_eq_nil_iff.mpr fun _ _ => rfl
  have frames : (diagram.fragments.map diagram.fragmentFigure).filterMap Figure.line? = [] := by
    rw [List.filterMap_map]
    exact List.filterMap_eq_nil_iff.mpr fun _ _ => rfl
  have messages : (diagram.messages.flatMap diagram.messageFigures).filterMap Figure.line? =
      diagram.messages.filterMap diagram.arrowBody? := by
    rw [List.filterMap_flatMap, List.filterMap_eq_flatMap_toList,
      funext diagram.messageFigures_lines]
  rw [figures_eq, List.filterMap_append, List.filterMap_append, List.filterMap_append, columns,
    separators, frames, messages, List.append_nil, List.append_nil]

/-- The boxes of the figures are the heads and, behind them, the separators. Frames and
notes follow. -/
theorem figures_boxes : ∃ others, diagram.figures.filterMap Figure.box? =
    diagram.lifelines.map headBody ++
      (diagram.groups.flatMap fun group =>
        (groupFigures diagram.totalWidth group).filterMap Figure.box?) ++ others := by
  have columns : diagram.columnFigures.filterMap Figure.box? =
      diagram.lifelines.map headBody := by
    rw [columnFigures, List.filterMap_flatMap, List.map_eq_flatMap]
    rfl
  rw [figures_eq, List.filterMap_append, List.filterMap_append, List.filterMap_append, columns,
    List.filterMap_flatMap, List.append_assoc]
  exact ⟨_, rfl⟩

/-- A lifeline that is found belongs to a participant of that name. -/
theorem mem_of_lifelineOf? {diagram : SequenceDiagram} {name : String} {place : Int}
    (found : diagram.lifelineOf? name = some place) :
    ∃ placed ∈ diagram.lifelines, placed.1.name = name ∧ placed.2 = place := by
  obtain ⟨placed, last, same⟩ := Option.map_eq_some_iff.mp found
  have named := List.find?_some last
  exact ⟨placed, List.mem_reverse.mp (List.mem_of_find?_eq_some last), eq_of_beq named, same⟩

/-- Every participant has a lifeline. -/
theorem lifelineOf?_isSome {diagram : SequenceDiagram} {name : String}
    (known : name ∈ diagram.names) : (diagram.lifelineOf? name).isSome = true := by
  obtain ⟨participant, member, same⟩ := List.mem_map.mp known
  rw [← map_fst_lifelines 50 diagram.participants] at member
  obtain ⟨placed, inside, rfl⟩ := List.mem_map.mp member
  rw [lifelineOf?, Option.isSome_map, List.find?_isSome]
  exact ⟨placed, List.mem_reverse.mpr inside, beq_iff_eq.mpr same⟩

end Figures

variable {diagram : SequenceDiagram}

/-- A lifeline stands in the middle of its head, whatever the width of that is. -/
theorem middle_of_head (placed : Participant × Int) :
    placed.2 - Participant.width / 2 +
        (Participant.width - Participant.widthOf placed.1.kind) / 2 +
      Participant.widthOf placed.1.kind / 2 = placed.2 := by
  cases placed.1.kind <;> simp only [Participant.width, Participant.widthOf] <;> omega

/-- A head and a lifeline that are drawn for a participant hang together. -/
theorem hangs_of_body {column : Column} {place : Int}
    (head : column.head.body = headBody (column.participant, place))
    (lifeline : column.lifeline.body = diagram.lifelineBody (column.participant, place)) :
    column.Hangs := by
  have middle := middle_of_head (column.participant, place)
  let bottom := Participant.top + Participant.heightOf column.participant.kind
  refine ⟨_, _, _, _, bottom + diagram.depth, ?_, head, ?_⟩
  · have room : 0 ≤ diagram.depth := by
      rw [depth]
      omega
    exact Int.le_add_of_nonneg_right room
  · rw [lifeline, middle]
    rfl

/-- A lifeline reaches from above the first message to below the last one. -/
theorem lifeline_passes {lifeline : Cell} {placed : Participant × Int} {number : Int}
    (drawn : lifeline.body = diagram.lifelineBody placed) (first : 0 ≤ number)
    (last : number < diagram.messages.length) :
    lifeline.PassesThrough (.ofInt placed.2 (messageTop number)) := by
  have shape : lifeline.shape = (diagram.lifelineBody placed).2.2.2 :=
    congrArg (fun body => body.2.2.2) drawn
  refine ⟨_, _, shape, rfl, rfl, ?_, ?_⟩
  · refine Rat.intCast_le_intCast.mpr ?_
    rw [messageTop]
    cases placed.1.kind <;> simp only [Participant.top, Participant.heightOf] <;> omega
  · refine Rat.intCast_le_intCast.mpr ?_
    rw [messageTop, depth]
    cases placed.1.kind <;> simp only [Participant.top, Participant.heightOf] <;> omega

/-- The columns hold the lifelines of a diagram where they are drawn. -/
def Hold (columns : List Column) (diagram : SequenceDiagram) : Prop :=
  ∀ placed ∈ diagram.lifelines, ∃ column ∈ columns, column.participant = placed.1 ∧
    column.lifeline.body = diagram.lifelineBody placed

/-- The heads and the lifelines of a drawing, side by side, are columns of its
participants. -/
theorem exists_columns {heads lifelines : List Cell}
    (headsDrawn : heads.map Cell.body = diagram.lifelines.map headBody)
    (lifelinesDrawn : lifelines.map Cell.body = diagram.lifelines.map diagram.lifelineBody) :
    ∃ columns : List Column, columns.map Column.participant = diagram.participants ∧
      columns.map Column.head = heads ∧ columns.map Column.lifeline = lifelines ∧
      (∀ column ∈ columns, column.Hangs) ∧ Hold columns diagram := by
  obtain ⟨headed, items, rfl, ofHead⟩ := exists_pairs (forall₂_of_map_eq headsDrawn)
  rw [← items, List.map_map] at lifelinesDrawn
  obtain ⟨whole, items', rfl, ofLifeline⟩ := exists_pairs (forall₂_of_map_eq lifelinesDrawn)
  subst items'
  let column (drawn : ((Participant × Int) × Cell) × Cell) : Column :=
    ⟨drawn.1.1.1, drawn.1.2, drawn.2⟩
  refine ⟨whole.map column, ?_, ?_, ?_, ?_, ?_⟩
  · have participants : diagram.lifelines.map Prod.fst = diagram.participants :=
      map_fst_lifelines 50 diagram.participants
    rw [← items, List.map_map, List.map_map] at participants
    rw [List.map_map]
    exact participants
  · rw [List.map_map, List.map_map]
    rfl
  · rw [List.map_map]
    rfl
  · intro _ member
    obtain ⟨drawn, inside, rfl⟩ := List.mem_map.mp member
    exact hangs_of_body (ofHead drawn.1 (List.mem_map_of_mem inside)) (ofLifeline drawn inside)
  · intro placed member
    rw [← items, List.map_map] at member
    obtain ⟨drawn, inside, rfl⟩ := List.mem_map.mp member
    exact ⟨column drawn, List.mem_map_of_mem inside, rfl, ofLifeline drawn inside⟩

/-- A message between registered participants is not passed over. -/
theorem arrowBody?_isSome {message : Message}
    (known : message.source ∈ diagram.names ∧ message.target ∈ diagram.names) :
    (diagram.arrowBody? message).isSome = true := by
  obtain ⟨start, atSource⟩ := Option.isSome_iff_exists.mp (lifelineOf?_isSome known.1)
  obtain ⟨stop, atTarget⟩ := Option.isSome_iff_exists.mp (lifelineOf?_isSome known.2)
  rw [arrowBody?, atSource, atTarget]
  rfl

/-- The arrow of a message is drawn at the height of its number between two lifelines that
were found. -/
theorem arrowBody?_eq_some {message : Message} {body : String × String × String × Cell.Shape}
    (drawn : diagram.arrowBody? message = some body) :
    ∃ start stop : Int, diagram.lifelineOf? message.source = some start ∧
      diagram.lifelineOf? message.target = some stop ∧
      body = (message.text, messageStyle message, Cell.layerId,
        .line (.ofInt start (messageTop message.id)) (.ofInt stop (messageTop message.id))) := by
  rw [arrowBody?] at drawn
  obtain ⟨start, source, found⟩ := Option.bind_eq_some_iff.mp drawn
  obtain ⟨stop, target, whole⟩ := Option.bind_eq_some_iff.mp found
  exact ⟨start, stop, source, target, (Option.some.inj whole).symm⟩

/-- The end of an arrow lies on the lifeline it was found for. -/
theorem touches_of_found {columns : List Column} (hold : Hold columns diagram) {name : String}
    {place number : Int} (found : diagram.lifelineOf? name = some place) (first : 0 ≤ number)
    (last : number < diagram.messages.length) :
    Touches columns name (.ofInt place (messageTop number)) := by
  obtain ⟨placed, member, named, rfl⟩ := mem_of_lifelineOf? found
  obtain ⟨column, inside, participant, lifeline⟩ := hold placed member
  exact ⟨column, inside, participant ▸ named, lifeline_passes lifeline first last⟩

/-- An arrow that is drawn for a message of the diagram spans its two lifelines. -/
theorem spans_of_drawn {columns : List Column} (hold : Hold columns diagram)
    (numbered : NumberedBy Message.id diagram.messages) {message : Message}
    (member : message ∈ diagram.messages) {arrow : Cell}
    (drawn : diagram.arrowBody? message = some arrow.body) : Spans columns message arrow := by
  obtain ⟨start, stop, source, target, body⟩ := arrowBody?_eq_some drawn
  obtain ⟨first, last⟩ := numbered.bounds member
  exact ⟨_, _, body, rfl, touches_of_found hold source first last,
    touches_of_found hold target first last⟩

/-- Both ends of an arrow have the height of its message. -/
theorem heights_of_drawn {message : Message} {arrow : Cell}
    (drawn : diagram.arrowBody? message = some arrow.body) :
    arrow.shape.heights =
      [messageTop message.id, messageTop message.id].map fun height : Int => (height : Rat) := by
  obtain ⟨start, stop, _, _, body⟩ := arrowBody?_eq_some drawn
  have shape := congrArg (fun body => body.2.2.2) body
  exact congrArg Cell.Shape.heights shape

/-- The line and the label of a separator keep close to the height of its number. -/
theorem heights_of_separator {width : Int} {group : MessageGroup} {separator : List Cell}
    (drawn : separator.map Cell.body = (groupFigures width group).filterMap Figure.box?)
    {part : Cell} (member : part ∈ separator) :
    ∃ edges : List Int, part.shape.heights = edges.map (fun edge : Int => (edge : Rat)) ∧
      ∀ edge ∈ edges, 100 + group.startIndex * 50 - 12 ≤ edge ∧
        edge ≤ 100 + group.startIndex * 50 + 12 := by
  have inside : part.body ∈ (groupFigures width group).filterMap Figure.box? :=
    drawn ▸ List.mem_map_of_mem member
  rcases List.mem_pair.mp inside with line | label
  · have shape := congrArg (fun body => body.2.2.2) line
    refine ⟨_, (congrArg Cell.Shape.heights shape).trans (Cell.heights_box ..), ?_⟩
    intro edge isEdge
    rcases List.mem_pair.mp isEdge with rfl | rfl <;> omega
  · have shape := congrArg (fun body => body.2.2.2) label
    refine ⟨_, (congrArg Cell.Shape.heights shape).trans (Cell.heights_box ..), ?_⟩
    intro edge isEdge
    rcases List.mem_pair.mp isEdge with rfl | rfl <;> omega

/-- The heights of arrows are those of their messages. -/
def AtHeights (arrows : List Cell) (messages : List Message) : Prop :=
  arrows.map (fun arrow => arrow.shape.heights) = messages.map fun message =>
    [messageTop message.id, messageTop message.id].map fun height : Int => (height : Rat)

/-- Arrows lie one below the other, since the numbers of their messages increase. -/
theorem AtHeights.descending {arrows : List Cell} (heights : AtHeights arrows diagram.messages)
    (numbered : NumberedBy Message.id diagram.messages) : arrows.Pairwise Cell.Above := by
  have written : (arrows.map fun arrow => arrow.shape.heights).Pairwise fun upper lower =>
      ∀ high ∈ upper, ∀ low ∈ lower, high < low := by
    rw [heights]
    refine List.pairwise_map.mpr (numbered.increasing.imp ?_)
    intro first second before high highWritten low lowWritten
    obtain ⟨top, isTop, rfl⟩ := List.mem_map.mp highWritten
    obtain ⟨bottom, isBottom, rfl⟩ := List.mem_map.mp lowWritten
    refine Rat.intCast_lt_intCast.mpr ?_
    rcases List.mem_pair.mp isTop with rfl | rfl <;>
      rcases List.mem_pair.mp isBottom with rfl | rfl <;>
      simp only [messageTop] <;> omega
  have apart := List.pairwise_map.mp written
  exact apart

/-- A separator lies in the gap before the message of its number. -/
theorem AtHeights.separates {arrows : List Cell} (heights : AtHeights arrows diagram.messages)
    (numbered : NumberedBy Message.id diagram.messages) {width : Int} {group : MessageGroup}
    (counted : 0 ≤ group.startIndex) {separator : List Cell}
    (drawn : separator.map Cell.body = (groupFigures width group).filterMap Figure.box?) :
    Separates arrows group separator := by
  constructor
  · have shown := congrArg (List.map fun body => (body.1, body.2.1)) drawn
    rw [List.map_map] at shown
    exact shown
  · intro part member
    obtain ⟨edges, written, close⟩ := heights_of_separator drawn member
    constructor
    · intro arrow before
      have height := List.mem_map_of_mem (f := fun arrow : Cell => arrow.shape.heights) before
      rw [List.map_take, heights, ← List.map_take] at height
      obtain ⟨message, own, same⟩ := List.mem_map.mp height
      have number := numbered.lt_of_mem_take own
      refine Cell.above_of_heights same.symm written ?_
      intro top isTop edge isEdge
      have lower := (close edge isEdge).1
      rcases List.mem_pair.mp isTop with rfl | rfl <;> simp only [messageTop] <;> omega
    · intro arrow behind
      have height := List.mem_map_of_mem (f := fun arrow : Cell => arrow.shape.heights) behind
      rw [List.map_drop, heights, ← List.map_drop] at height
      obtain ⟨message, own, same⟩ := List.mem_map.mp height
      have number := numbered.le_of_mem_drop own
      refine Cell.above_of_heights written same.symm ?_
      intro edge isEdge top isTop
      have upper := (close edge isEdge).2
      rcases List.mem_pair.mp isTop with rfl | rfl <;> simp only [messageTop] <;> omega

/-- Whatever lines are read, participants have distinct names, and the diagram is drawn with
every message between its lifelines and every separator between its messages. -/
theorem messages_between_lifelines (stem : String) {lines : List String}
    {diagram : SequenceDiagram} (read : ofLines lines = .ok diagram) :
    diagram.names.Nodup ∧ diagram.DrawnBy ((Diagram.sequence diagram).cells stem) := by
  have registered := Registered.of_lines read
  have boxes := cellsOf_boxes stem diagram.figures_isFlat
  have lines := cellsOf_lines stem diagram.figures_isFlat
  obtain ⟨rest, figures⟩ := diagram.figures_boxes
  rw [figures] at boxes
  rw [diagram.figures_lines] at lines
  obtain ⟨front, others, boxCells, frontDrawn, _⟩ := List.map_eq_append_iff.mp boxes
  obtain ⟨heads, separatorCells, rfl, headsDrawn, separatorsDrawn⟩ :=
    List.map_eq_append_iff.mp frontDrawn
  obtain ⟨lifelines, arrows, lineCells, lifelinesDrawn, arrowsDrawn⟩ :=
    List.map_eq_append_iff.mp lines
  obtain ⟨columns, participants, rfl, rfl, hang, hold⟩ :=
    exists_columns headsDrawn lifelinesDrawn
  obtain ⟨separators, rfl, separated⟩ := exists_parts separatorsDrawn
  have drawn := forall₂_of_filterMap arrowsDrawn fun message member =>
    arrowBody?_isSome (registered.ends message member)
  have heights : AtHeights arrows diagram.messages :=
    map_eq_of_forall₂ (drawn.imp fun _ _ own => heights_of_drawn own.2)
  refine ⟨registered.distinct, columns, separators, others, arrows, participants, hang, boxCells,
    lineCells, ?_, heights.descending registered.numbered, ?_⟩
  · exact drawn.imp fun _ _ own => spans_of_drawn hold registered.numbered own.1 own.2
  · have counted : ∀ group ∈ diagram.groups, 0 ≤ group.startIndex :=
      fun group member => (registered.bounded group member).1
    refine (List.forall₂_and_left _ _ |>.mpr ⟨counted, separated⟩).imp ?_
    intro group separator own
    exact heights.separates registered.numbered own.1 own.2

/-- A person and two boxes, a message to oneself, and separators before, between and behind
the messages. -/
theorem messages_between_lifelines_order :
    let lines := ["actor Buyer", "== start ==", "Buyer -> Shop : order", "Shop -> Shop : check",
      "== payment ==", "Shop --> Bank : charge", "== end =="]
    let diagram : SequenceDiagram :=
      { participants := [{ name := "Buyer", label := "Buyer", kind := .actor },
          { name := "Shop", label := "Shop" }, { name := "Bank", label := "Bank" }]
        messages := [
          { id := 0, source := "Buyer", target := "Shop", text := "order" },
          { id := 1, source := "Shop", target := "Shop", text := "check" },
          { id := 2, source := "Shop", target := "Bank", text := "charge", isReturn := true,
            isDashed := true }]
        groups := [{ label := "start", startIndex := 0 }, { label := "payment", startIndex := 2 },
          { label := "end", startIndex := 3 }] }
    ofLines lines = .ok diagram ∧
      diagram.names.Nodup ∧ diagram.DrawnBy ((Diagram.sequence diagram).cells "order") := by
  intro lines diagram
  have read : ofLines lines = .ok diagram := by decide +kernel
  exact ⟨read, messages_between_lifelines "order" read⟩

end Drafting.SequenceDiagram
