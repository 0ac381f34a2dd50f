import Drafting.Proofs.SequenceDiagram.Alternatives
import Drafting.Proofs.SequenceDiagram.Lifelines

/-!
# Frames of alternatives

The frame of an alternative and the arrows of messages are placed apart from each other, each by its
own numbers. The frame begins in the gap before the first message of the alternative and ends in the
gap behind the last one, so the numbers decide which arrows it reaches over. Since alternatives lie
within each other or have no message in common, so do their frames as far as they reach over arrows.

The main statement tells this for every diagram that is read, where an alternative holds a message.
-/

namespace Drafting

/-- A box reaches over all heights of another cell. -/
def Cell.ReachesOver (outer inner : Cell) : Prop :=
  ∃ place : Box, outer.shape = .box place ∧ inner.shape.heights ≠ [] ∧
    ∀ height ∈ inner.shape.heights, place.y ≤ height ∧ height ≤ place.y + place.height

/-- With integral heights, the numbers decide. -/
theorem Cell.reachesOver_iff {outer inner : Cell} {x y width height : Int} {edges : List Int}
    (place : outer.shape = .box (.ofInt x y width height)) (drawn : edges ≠ [])
    (heights : inner.shape.heights = edges.map fun edge : Int => (edge : Rat)) :
    outer.ReachesOver inner ↔ ∀ edge ∈ edges, y ≤ edge ∧ edge ≤ y + height := by
  rw [ReachesOver, place, heights]
  simp only [Shape.box.injEq, exists_eq_left', ne_eq, List.map_eq_nil_iff, drawn,
    not_false_eq_true, true_and, List.forall_mem_map, Box.ofInt, ← Rat.intCast_add,
    Rat.intCast_le_intCast]

namespace Fragment

/-- The number of the first message behind an alternative, if there are `count` messages. -/
def stop (count : Int) (fragment : Fragment) : Int := fragment.endIndex.getD count

/-- The messages of an alternative are those from its start to its end. -/
theorem mem_range_iff {fragment : Fragment} {count number : Int} (inside : number < count) :
    number ∈ fragment.range ↔ fragment.startIndex ≤ number ∧ number < fragment.stop count := by
  rw [range, Set.mem_ofPred_eq, stop]
  cases fragment.endIndex with
  | none => simp [inside]
  | some stop => simp

/-- An alternative does not end behind the last message. -/
theorem Ordered.stop_le {fragment : Fragment} {count : Int} (ordered : fragment.Ordered count) :
    fragment.stop count ≤ count := by
  rw [Fragment.stop]
  cases ends : fragment.endIndex with
  | none => exact le_rfl
  | some stop => exact (ordered.stop stop ends).2

/-- An alternative within another one does not end behind it. -/
theorem Within.stop_le {inner outer : Fragment} {count : Int} (within : inner.Within outer)
    (ordered : inner.Ordered count) : inner.stop count ≤ outer.stop count := by
  rw [Fragment.stop.eq_def count outer]
  cases ends : outer.endIndex with
  | none => exact ordered.stop_le
  | some stop =>
    obtain ⟨own, ownEnds, before⟩ := within.2 stop ends
    rw [Fragment.stop, ownEnds]
    exact before

/-- Of two alternatives with a message in common, the later one lies within the earlier one. -/
theorem Laminar.within_of_common {outer inner : Fragment} (laminar : Laminar outer inner)
    {number : Int} (inOuter : number ∈ outer.range) (inInner : number ∈ inner.range) :
    inner.Within outer := by
  rcases laminar with before | within
  · exact absurd (Set.mem_inter inOuter inInner) (before.inter_range ▸ Set.notMem_empty number)
  · exact within

end Fragment

namespace SequenceDiagram

/-- Whether a cell is the frame of an alternative. -/
def isFrame (cell : Cell) : Bool := cell.isBox && cell.style == fragmentStyle

/-- Whether a cell is the arrow of a message. The other lines are lifelines. -/
def isArrow (cell : Cell) : Bool := !cell.isBox && cell.style != Participant.lifelineStyle

/-- What the frame of an alternative is apart from its identifier. -/
def frameBody (diagram : SequenceDiagram) (fragment : Fragment) :
    String × String × String × Cell.Shape :=
  (fragment.kind ++ " [" ++ fragment.label ++ "]", fragmentStyle, Cell.layerId,
    .box (.ofInt 30 (messageTop fragment.startIndex - 30) diagram.totalWidth
      (max 1 (fragment.stop diagram.messages.length - fragment.startIndex) * 50 + 10)))

section Figures

variable (diagram : SequenceDiagram)

/-- No other box is drawn in the style of frames. -/
theorem ne_fragmentStyle :
    (∀ kind, Participant.styleOf kind ≠ fragmentStyle) ∧ groupLineStyle ≠ fragmentStyle ∧
      groupLabelStyle ≠ fragmentStyle ∧ Style.note ≠ fragmentStyle := by
  refine ⟨fun kind => ?_, by decide, by decide, by decide⟩
  cases kind <;> decide

/-- Only alternatives are drawn in the style of frames. -/
theorem figures_frames :
    (diagram.figures.filterMap Figure.box?).filter (fun body => body.2.1 == fragmentStyle) =
      diagram.fragments.map diagram.frameBody := by
  obtain ⟨person, line, label, note⟩ := ne_fragmentStyle
  have unframed (figures : List Figure)
      (other : ∀ figure ∈ figures, ∀ body ∈ figure.box?, body.2.1 ≠ fragmentStyle) :
      (figures.filterMap Figure.box?).filter (fun body => body.2.1 == fragmentStyle) = [] := by
    refine List.filter_eq_nil_iff.mpr ?_
    intro body member
    obtain ⟨figure, inside, isBody⟩ := List.mem_filterMap.mp member
    simpa using other figure inside body isBody
  have columns := unframed diagram.columnFigures (by
    intro figure member body isBody
    obtain ⟨placed, _, inside⟩ := List.mem_flatMap.mp member
    rcases List.mem_pair.mp inside with rfl | rfl
    · rw [← Option.some.inj isBody]
      exact person _
    · contradiction)
  have separators := unframed (diagram.groups.flatMap (groupFigures diagram.totalWidth)) (by
    intro figure member body isBody
    obtain ⟨group, _, inside⟩ := List.mem_flatMap.mp member
    rcases List.mem_pair.mp inside with rfl | rfl
    · rw [← Option.some.inj isBody]
      exact line
    · rw [← Option.some.inj isBody]
      exact label)
  have messages := unframed (diagram.messages.flatMap diagram.messageFigures) (by
    intro figure member body isBody
    obtain ⟨message, _, inside⟩ := List.mem_flatMap.mp member
    rw [messageFigures] at inside
    split at inside
    · rcases List.mem_cons.mp inside with rfl | beside
      · contradiction
      · rw [noteFigures] at beside
        split at beside
        · contradiction
        · obtain rfl := List.mem_singleton.mp beside
          rw [← Option.some.inj isBody]
          exact note
    · contradiction)
  have frames : (diagram.fragments.map diagram.fragmentFigure).filterMap Figure.box? =
      diagram.fragments.map diagram.frameBody := by
    rw [List.filterMap_map, ← List.filterMap_eq_map]
    rfl
  have all : ∀ body ∈ diagram.fragments.map diagram.frameBody,
      (body.2.1 == fragmentStyle) = true :=
    List.forall_mem_map.mpr fun _ _ => beq_self_eq_true fragmentStyle
  rw [figures_eq, List.filterMap_append, List.filterMap_append, List.filterMap_append,
    List.filter_append, List.filter_append, List.filter_append, columns, separators, messages,
    frames, List.filter_eq_self.mpr all, List.append_nil, List.nil_append, List.nil_append]

/-- Lifelines are the only other lines. -/
theorem figures_arrows :
    (diagram.figures.filterMap Figure.line?).filter
        (fun body => body.2.1 != Participant.lifelineStyle) =
      diagram.messages.filterMap diagram.arrowBody? := by
  have lifelines : (diagram.lifelines.map diagram.lifelineBody).filter
      (fun body => body.2.1 != Participant.lifelineStyle) = [] := by
    refine List.filter_eq_nil_iff.mpr (List.forall_mem_map.mpr ?_)
    intro placed _
    simp [lifelineBody]
  have all : ∀ body ∈ diagram.messages.filterMap diagram.arrowBody?,
      (body.2.1 != Participant.lifelineStyle) = true := by
    intro body member
    obtain ⟨message, _, drawn⟩ := List.mem_filterMap.mp member
    obtain ⟨_, _, _, _, rfl⟩ := arrowBody?_eq_some drawn
    simp only [messageStyle]
    cases message.isDashed <;> decide
  rw [figures_lines, List.filter_append, lifelines, List.filter_eq_self.mpr all, List.nil_append]

end Figures

/-- Cells are selected by their kind and their style as their bodies are. -/
theorem map_body_filter (kind : Cell → Bool) (chosen : String → Bool) (cells : List Cell) :
    (cells.filter fun cell => kind cell && chosen cell.style).map Cell.body =
      ((cells.filter kind).map Cell.body).filter fun body => chosen body.2.1 := by
  rw [List.filter_map, List.filter_filter]
  refine congrArg _ (List.filter_congr fun cell _ => ?_)
  exact Bool.and_comm _ _

/-- The frames of a drawing are those of the alternatives. -/
theorem bodies_of_frames (diagram : SequenceDiagram) (stem : String) :
    (((Diagram.sequence diagram).cells stem).filter isFrame).map Cell.body =
      diagram.fragments.map diagram.frameBody := by
  have boxes := cellsOf_boxes stem diagram.figures_isFlat
  rw [← figures_frames, ← boxes]
  exact map_body_filter Cell.isBox (· == fragmentStyle) _

/-- The arrows of a drawing are those of the messages whose ends are both drawn. -/
theorem bodies_of_arrows (diagram : SequenceDiagram) (stem : String) :
    (((Diagram.sequence diagram).cells stem).filter isArrow).map Cell.body =
      diagram.messages.filterMap diagram.arrowBody? := by
  have lines := cellsOf_lines stem diagram.figures_isFlat
  rw [← figures_arrows, ← lines]
  exact map_body_filter (fun cell => !cell.isBox) (· != Participant.lifelineStyle) _

/-- A cell is the frame of an alternative: a box with its kind and its label. -/
def Frames (fragment : Fragment) (frame : Cell) : Prop :=
  frame.value = fragment.kind ++ " [" ++ fragment.label ++ "]" ∧ ∃ place, frame.shape = .box place

/-- A cell is the arrow of a message: a level line with its text. -/
def Carries (message : Message) (arrow : Cell) : Prop :=
  arrow.value = message.text ∧ ∃ start stop, arrow.shape = .line start stop ∧ start.y = stop.y

/-- An alternative holds at least one of the messages of a diagram. -/
def HoldsMessage (diagram : SequenceDiagram) (fragment : Fragment) : Prop :=
  ∃ message ∈ diagram.messages, message.id ∈ fragment.range

/-- Cells show the alternatives of a diagram: each of these is drawn as a frame and each message as
an arrow. The frame of an alternative that holds a message reaches over the arrow of a message
exactly if the message belongs to the alternative. Where two alternatives have a message in common,
the later one lies within the earlier one, and so does its frame. -/
def ShowsAlternatives (diagram : SequenceDiagram) (cells : List Cell) : Prop :=
  ∃ (frames : List (Fragment × Cell)) (arrows : List (Message × Cell)),
    frames.map Prod.fst = diagram.fragments ∧ frames.map Prod.snd = cells.filter isFrame ∧
    (∀ drawn ∈ frames, Frames drawn.1 drawn.2) ∧
    arrows.map Prod.fst = diagram.messages ∧ arrows.map Prod.snd = cells.filter isArrow ∧
    (∀ sent ∈ arrows, Carries sent.1 sent.2) ∧
    (∀ drawn ∈ frames, diagram.HoldsMessage drawn.1 → ∀ sent ∈ arrows,
      (drawn.2.ReachesOver sent.2 ↔ sent.1.id ∈ drawn.1.range)) ∧
    frames.Pairwise fun outer inner =>
      (∃ message ∈ diagram.messages,
        message.id ∈ outer.1.range ∧ message.id ∈ inner.1.range) →
      inner.1.Within outer.1 ∧ outer.2.ReachesOver inner.2

variable {diagram : SequenceDiagram}

/-- An alternative that holds a message ends behind its start. -/
theorem HoldsMessage.start_lt_stop {fragment : Fragment} (holds : diagram.HoldsMessage fragment)
    (numbered : NumberedBy Message.id diagram.messages) :
    fragment.startIndex < fragment.stop diagram.messages.length := by
  obtain ⟨message, member, inRange⟩ := holds
  obtain ⟨starts, ends⟩ := (Fragment.mem_range_iff (numbered.bounds member).2).mp inRange
  omega

/-- The frame of an alternative that ends behind its start reaches over heights between the gap
before its first message and the gap behind its last one. -/
theorem frame_reachesOver_iff {fragment : Fragment} {frame cell : Cell} {edges : List Int}
    (drawn : frame.body = diagram.frameBody fragment)
    (before : fragment.startIndex < fragment.stop diagram.messages.length) (notEmpty : edges ≠ [])
    (heights : cell.shape.heights = edges.map fun edge : Int => (edge : Rat)) :
    frame.ReachesOver cell ↔ ∀ edge ∈ edges, messageTop fragment.startIndex - 30 ≤ edge ∧
      edge ≤ messageTop (fragment.stop diagram.messages.length) - 20 := by
  have place : frame.shape = (diagram.frameBody fragment).2.2.2 :=
    congrArg (fun body => body.2.2.2) drawn
  have bottom : messageTop fragment.startIndex - 30 +
      (max 1 (fragment.stop diagram.messages.length - fragment.startIndex) * 50 + 10) =
        messageTop (fragment.stop diagram.messages.length) - 20 := by
    simp only [messageTop]
    omega
  rw [Cell.reachesOver_iff place notEmpty heights, bottom]

/-- The frame of an alternative reaches over exactly the arrows of its messages. -/
theorem frame_reachesOver_arrow_iff {fragment : Fragment} {message : Message} {frame arrow : Cell}
    (frameDrawn : frame.body = diagram.frameBody fragment)
    (arrowDrawn : diagram.arrowBody? message = some arrow.body)
    (before : fragment.startIndex < fragment.stop diagram.messages.length)
    (inside : message.id < diagram.messages.length) :
    frame.ReachesOver arrow ↔ message.id ∈ fragment.range := by
  rw [frame_reachesOver_iff frameDrawn before (by simp) (heights_of_drawn arrowDrawn),
    Fragment.mem_range_iff inside]
  simp only [messageTop, List.forall_mem_cons, List.not_mem_nil, false_imp_iff, implies_true,
    and_true, and_self]
  omega

/-- The frame of an alternative reaches over that of an alternative within it. -/
theorem frame_reachesOver_frame {inner outer : Fragment} {innerFrame outerFrame : Cell}
    (innerDrawn : innerFrame.body = diagram.frameBody inner)
    (outerDrawn : outerFrame.body = diagram.frameBody outer)
    (ordered : inner.Ordered diagram.messages.length) (within : inner.Within outer)
    (before : inner.startIndex < inner.stop diagram.messages.length) :
    outerFrame.ReachesOver innerFrame := by
  have starts := within.1
  have stops := within.stop_le ordered
  have place : innerFrame.shape = (diagram.frameBody inner).2.2.2 :=
    congrArg (fun body => body.2.2.2) innerDrawn
  have heights := (congrArg Cell.Shape.heights place).trans (Cell.heights_box ..)
  rw [frame_reachesOver_iff outerDrawn (by omega) (by simp) heights]
  simp only [messageTop, List.forall_mem_cons, List.not_mem_nil, false_imp_iff, implies_true,
    and_true]
  omega

/-- Alternatives are in order, and of two of them the later one lies behind the earlier one or
within it. -/
theorem Progress.Nested.laminar_fragments {final : Progress} (nested : final.Nested) :
    (∀ fragment ∈ final.diagram.fragments, fragment.Ordered final.diagram.messages.length) ∧
      final.diagram.fragments.Pairwise Fragment.Laminar := by
  constructor
  · intro fragment member
    obtain ⟨position, found⟩ := List.mem_iff_getElem?.mp member
    exact nested.ordered position fragment found
  · refine List.pairwise_iff_getElem.mpr ?_
    intro first second firstInside secondInside before
    exact nested.laminar first second _ _ before (List.getElem?_eq_getElem firstInside)
      (List.getElem?_eq_getElem secondInside)

/-- Whatever lines are read: frames reach over the arrows of the messages that belong to their
alternatives and over no others, and over the frames of the alternatives within these. -/
theorem frames_reach_over_messages (stem : String) {lines : List String}
    {diagram : SequenceDiagram} (read : ofLines lines = .ok diagram) :
    diagram.ShowsAlternatives ((Diagram.sequence diagram).cells stem) := by
  have registered := Registered.of_lines read
  have numbered := registered.numbered
  obtain ⟨final, rfl, nested⟩ := Progress.Nested.of_lines read
  obtain ⟨ordered, laminar⟩ := nested.laminar_fragments
  obtain ⟨frames, fragments, framesDrawn, framed⟩ :=
    exists_pairs (forall₂_of_map_eq (bodies_of_frames final.diagram stem))
  obtain ⟨arrows, messages, arrowsDrawn, sentBy⟩ :=
    exists_pairs (forall₂_of_filterMap (bodies_of_arrows final.diagram stem)
      fun message member => arrowBody?_isSome (registered.ends message member))
  refine ⟨frames, arrows, fragments, framesDrawn, ?_, messages, arrowsDrawn, ?_, ?_, ?_⟩
  · intro drawn member
    have body := framed drawn member
    exact ⟨congrArg Prod.fst body, _, congrArg (fun body => body.2.2.2) body⟩
  · intro sent member
    obtain ⟨_, _, _, _, body⟩ := arrowBody?_eq_some (sentBy sent member).2
    refine ⟨congrArg Prod.fst body, _, _, congrArg (fun body => body.2.2.2) body, ?_⟩
    rfl
  · intro drawn member holds sent sentMember
    obtain ⟨message, arrow⟩ := sentBy sent sentMember
    exact frame_reachesOver_arrow_iff (framed drawn member) arrow (holds.start_lt_stop numbered)
      (numbered.bounds message).2
  · rw [← fragments, List.pairwise_map] at laminar
    refine laminar.imp_of_mem ?_
    rintro outer inner outerMember innerMember apart ⟨message, member, inOuter, inInner⟩
    have within := apart.within_of_common inOuter inInner
    have holds : final.diagram.HoldsMessage inner.1 := ⟨message, member, inInner⟩
    have innerOrdered := ordered inner.1 (fragments ▸ List.mem_map_of_mem innerMember)
    exact ⟨within, frame_reachesOver_frame (framed inner innerMember) (framed outer outerMember)
      innerOrdered within (holds.start_lt_stop numbered)⟩

/-- An alternative within another one that ends with it, one that begins where these end and stays
open, and one within that without a message. -/
theorem frames_reach_over_messages_order :
    let lines := ["alt paid", "Shop -> Bank : charge", "alt stocked", "Shop -> Depot : pick", "end",
      "end", "alt late", "alt never", "end", "Depot -> Shop : sent"]
    let diagram : SequenceDiagram :=
      { participants := ["Shop", "Bank", "Depot"].map fun name => { name, label := name }
        messages := [
          { id := 0, source := "Shop", target := "Bank", text := "charge" },
          { id := 1, source := "Shop", target := "Depot", text := "pick" },
          { id := 2, source := "Depot", target := "Shop", text := "sent" }]
        fragments := [
          { label := "paid", startIndex := 0, endIndex := some 2 },
          { label := "stocked", startIndex := 1, endIndex := some 2 },
          { label := "late", startIndex := 2 },
          { label := "never", startIndex := 2, endIndex := some 2 }] }
    ofLines lines = .ok diagram ∧
      diagram.ShowsAlternatives ((Diagram.sequence diagram).cells "order") := by
  intro lines diagram
  have read : ofLines lines = .ok diagram := by decide +kernel
  exact ⟨read, frames_reach_over_messages "order" read⟩

end SequenceDiagram

end Drafting
