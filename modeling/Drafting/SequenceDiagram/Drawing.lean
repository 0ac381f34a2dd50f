import Drafting.Figure
import Drafting.SequenceDiagram.Basic
import Drafting.Style

/-!
# Drawing sequence diagrams

Participants stand in a row at the top, each above its lifeline. Messages run
between the lifelines, one below the other at a fixed distance. Separators and
alternatives are placed by the number of messages before them, as far to the
right as the participants reach.
-/

namespace Drafting

namespace Participant

/-- The width of a participant that is drawn as a box. -/
def width : Int := 100

/-- The upper edge of all participants. -/
def top : Int := 40

/-- The style of a box. -/
def boxStyle : String := "fillColor=#dae8fc;strokeColor=#6c8ebf;"

/-- The style of a person. -/
def actorStyle : String :=
  "shape=umlActor;verticalLabelPosition=bottom;verticalAlign=top;html=1;" ++
  "fillColor=#dae8fc;strokeColor=#6c8ebf;"

/-- The style of a lifeline. -/
def lifelineStyle : String := "strokeColor=#999999;dashed=1;strokeWidth=1;endArrow=none;"

/-- The width of the figure of a kind. -/
def widthOf : ParticipantKind → Int
  | .participant => width
  | .actor => 30

/-- The height of the figure of a kind. -/
def heightOf : ParticipantKind → Int
  | .participant => 40
  | .actor => 60

/-- The style of a kind. -/
def styleOf : ParticipantKind → String
  | .participant => boxStyle
  | .actor => actorStyle

/-- The lifelines of participants that stand side by side: each hangs below the
middle of the room for its participant. -/
def lifelines (left : Int) : List Participant → List (Participant × Int)
  | [] => []
  | participant :: others =>
    (participant, left + width / 2) :: lifelines (left + 150) others

/-- The figures of a participant with its lifeline at a given place. -/
def figures (participant : Participant) (lifeline length : Int) : List Figure :=
  let own := widthOf participant.kind
  let bottom := top + heightOf participant.kind
  [ .node (some (.name participant.name)) participant.label (styleOf participant.kind)
      (.ofInt (lifeline - width / 2 + (width - own) / 2) top own (heightOf participant.kind))
      (some (.ofInt lifeline top)) [],
    .line "" lifelineStyle (.ofInt lifeline bottom) (.ofInt lifeline (bottom + length)) ]

end Participant

namespace SequenceDiagram

/-- The style of the line of a separator. -/
def groupLineStyle : String := "strokeWidth=1;fillColor=none;strokeColor=#999999;"

/-- The style of the label of a separator. -/
def groupLabelStyle : String :=
  "text;strokeColor=none;fillColor=#e1d5e7;align=center;verticalAlign=middle;fontStyle=1;" ++
  "fontSize=11;"

/-- The style of the frame of an alternative. -/
def fragmentStyle : String :=
  "rounded=0;whiteSpace=wrap;html=1;fillColor=none;strokeColor=#666666;dashed=1;align=left;" ++
  "verticalAlign=top;"

/-- The style of a message. -/
def messageStyle (message : Message) : String :=
  if message.isDashed then
    "endArrow=open;strokeColor=#666666;endFill=0;rounded=0;dashed=1;"
  else "endArrow=block;strokeColor=#333333;endFill=1;rounded=0;"

/-- The participants with their lifelines. -/
def lifelines (diagram : SequenceDiagram) : List (Participant × Int) :=
  Participant.lifelines 50 diagram.participants

/-- The lifeline of the participant of a given name; the last one counts. -/
def lifelineOf? (diagram : SequenceDiagram) (name : String) : Option Int :=
  (diagram.lifelines.reverse.find? fun (participant, _) => participant.name == name).map Prod.snd

/-- The width of separators and frames. -/
def totalWidth (diagram : SequenceDiagram) : Int := 50 + diagram.participants.length * 150

/-- The height of a message with a given number. -/
def messageTop (number : Int) : Int := 120 + number * 50

/-- The figures of a separator: a line and a label in the middle of it. -/
def groupFigures (totalWidth : Int) (group : MessageGroup) : List Figure :=
  let top := 100 + group.startIndex * 50
  [ .plain "" groupLineStyle (.ofInt 30 top totalWidth 1),
    .plain group.label groupLabelStyle (.ofInt (totalWidth / 2 - 60) (top - 12) 120 24) ]

/-- The frame of an alternative. One that is open reaches to the last message, and
one without messages has the height of one. -/
def fragmentFigure (diagram : SequenceDiagram) (fragment : Fragment) : Figure :=
  let stop := fragment.endIndex.getD diagram.messages.length
  .plain (fragment.kind ++ " [" ++ fragment.label ++ "]") fragmentStyle
    (.ofInt 30 (messageTop fragment.startIndex - 30) diagram.totalWidth
      (max 1 (stop - fragment.startIndex) * 50 + 10))

/-- The note beside a message, if it has a note. -/
def noteFigures (message : Message) (left top : Int) : List Figure :=
  let text := message.note.getD ""
  if text.isEmpty then [] else [.plain text Style.note (.ofInt left (top - 30) 140 40)]

/-- The figures of a message between two lifelines. One that names an unknown
participant is not drawn. -/
def messageFigures (diagram : SequenceDiagram) (message : Message) : List Figure :=
  match diagram.lifelineOf? message.source, diagram.lifelineOf? message.target with
  | some source, some target =>
    let top := messageTop message.id
    .line message.text (messageStyle message) (.ofInt source top) (.ofInt target top) ::
      noteFigures message (max source target + 20) top
  | _, _ => []

/-- The figures of a sequence diagram: participants, separators, frames,
messages. -/
def figures (diagram : SequenceDiagram) : List Figure :=
  (diagram.lifelines.flatMap fun (participant, lifeline) =>
    participant.figures lifeline (100 + diagram.messages.length * 50)) ++
  diagram.groups.flatMap (groupFigures diagram.totalWidth) ++
  diagram.fragments.map diagram.fragmentFigure ++
  diagram.messages.flatMap diagram.messageFigures

end SequenceDiagram

end Drafting
