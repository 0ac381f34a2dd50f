import Drafting.ActivityDiagram.Basic
import Drafting.Figure
import Drafting.Grid
import Drafting.Style

/-!
# Drawing activity diagrams

Steps stand below each other in the order of the source, at a distance that
depends on their kind. Markers are not drawn and take no room. Lanes stand side
by side behind the steps and are as high as the number of steps requires; a step
in a lane is placed in its middle. A partition surrounds the places of its steps.
Steps that share an identifier share the place of the last of them.
-/

namespace Drafting

namespace Swimlane

/-- The width of a lane. -/
def width : Int := 250

/-- The places of the left edges of lanes that stand side by side. -/
def lefts (left : Int) : List Swimlane → List (Swimlane × Int)
  | [] => []
  | lane :: others => (lane, left) :: lefts (left + width) others

/-- The style of a lane. A lane without a colour is grey. -/
def style (lane : Swimlane) : String :=
  let color := lane.color.getD ""
  "swimlane;horizontal=0;whiteSpace=wrap;html=1;fillColor=" ++
    (if color.isEmpty then Palette.grey.fill else color) ++
    ";strokeColor=#666666;startSize=30;"

end Swimlane

namespace Activity

/-- The width of an action with a short label, and of the column of steps. -/
def width : Int := 140

/-- The height of an action. -/
def height : Int := 40

/-- How far below a step the next one begins. -/
def drop : ActivityKind → Int
  | .start | .stop => 50
  | .decision => 80
  | .merge | .fork => 40
  | _ => 70

/-- The upper edges of the steps that are drawn, from a given one downwards. -/
def tops (top : Int) : List Activity → List (Int × Int)
  | [] => []
  | activity :: others =>
    if activity.kind.isMarker then tops top others
    else (activity.id, top) :: tops (top + drop activity.kind) others

/-- The upper edge of the step with a given identifier; the last one counts. -/
def topOf? (tops : List (Int × Int)) (id : Int) : Option Int := tops.reverse.lookup id

/-- The styles of the kinds that are drawn as a single shape. -/
def startStyle : String :=
  "ellipse;whiteSpace=wrap;html=1;aspect=fixed;fillColor=#000000;strokeColor=#000000;"

/-- The style of the dot that ends the flow. -/
def stopStyle : String := startStyle ++ "strokeWidth=3;"

/-- The style of the ring around that dot. -/
def ringStyle : String :=
  "ellipse;whiteSpace=wrap;html=1;aspect=fixed;fillColor=none;strokeColor=#000000;strokeWidth=2;"

/-- The style of a decision. -/
def decisionStyle : String :=
  "rhombus;whiteSpace=wrap;html=1;fillColor=#fff2cc;strokeColor=#d6b656;"

/-- The style of a merge. -/
def mergeStyle : String :=
  "rhombus;whiteSpace=wrap;html=1;fillColor=#f5f5f5;strokeColor=#666666;"

/-- The style of the bar at which the flow forks or joins. -/
def forkStyle : String :=
  "line;html=1;strokeWidth=4;fillColor=none;align=left;verticalAlign=middle;spacingTop=-1;" ++
  "spacingLeft=3;spacingRight=3;rotatable=0;labelPosition=right;points=[];" ++
  "portConstraint=eastwest;strokeColor=#000000;"

/-- The note beside an action, if it has a note. -/
def noteFigures (activity : Activity) (left top : Int) : List Figure :=
  let text := activity.note.getD ""
  if text.isEmpty then [] else [.plain text Style.note (.ofInt left (top - 10) 140 60)]

/-- The figures of a step in the column that begins at `left`. Links go to the
middle of the column. -/
def figures (activity : Activity) (left top : Int) : List Figure :=
  let middle := left + width / 2
  let shape (value style : String) (place : Box) : Figure :=
    .node (some (.number activity.id)) value style place
      (some (.ofInt middle (top + height / 2))) []
  match activity.kind with
  | .start => [shape "" startStyle (.ofInt (middle - 15) top 30 30)]
  | .stop =>
    [ shape "" stopStyle (.ofInt (middle - 15) top 30 30),
      .plain "" ringStyle (.ofInt (middle - 20) (top - 5) 40 40) ]
  | .action =>
    let labelWidth := textWidth activity.label width
    shape activity.label (Style.roundedBox .blue) (.ofInt left top labelWidth height) ::
      activity.noteFigures (left + labelWidth + 20) top
  | .decision => [shape activity.label decisionStyle (.ofInt left top 100 60)]
  | .merge => [shape "" mergeStyle (.ofInt (middle - 15) top 30 30)]
  | .fork => [shape "" forkStyle (.ofInt left top 100 10)]
  | .elseifMarker | .elseMarker => []

end Activity

namespace Partition

/-- The style of a partition. -/
def style : String :=
  "rounded=0;whiteSpace=wrap;html=1;fillColor=none;strokeColor=#666666;dashed=1;" ++
  "verticalAlign=top;fontStyle=1;"

/-- The upper edges of the steps in a partition. -/
def memberTops (group : Partition) (activities : List Activity) (tops : List (Int × Int)) :
    List Int :=
  (activities.filter fun activity => activity.partition == some group.id).filterMap
    fun activity => Activity.topOf? tops activity.id

/-- The box around the steps of a partition, if it has any. -/
def figure? (group : Partition) (activities : List Activity) (tops : List (Int × Int)) :
    Option Figure :=
  match group.memberTops activities tops with
  | [] => none
  | first :: others =>
    let top := others.foldl min first - 20
    let last := others.foldl max first
    some (.plain group.label style (.ofInt 110 top 280 (last - top + 70)))

end Partition

namespace ActivityDiagram

/-- The style of an edge. -/
def edgeStyle : String := "endArrow=classic;html=1;rounded=0;"

/-- The lanes with their left edges. -/
def lanes (diagram : ActivityDiagram) : List (Swimlane × Int) :=
  Swimlane.lefts 20 diagram.swimlanes

/-- The upper edge of the first step; lanes leave room for their headers. -/
def firstTop (diagram : ActivityDiagram) : Int := if diagram.swimlanes.isEmpty then 40 else 90

/-- The upper edges of all steps. -/
def tops (diagram : ActivityDiagram) : List (Int × Int) :=
  Activity.tops diagram.firstTop diagram.activities

/-- The left edge of the column in which a step stands: within its lane, or on
the page where it has no lane. The last lane of an identifier counts. -/
def columnOf (diagram : ActivityDiagram) (activity : Activity) : Int :=
  let lane := diagram.lanes.reverse.find? fun (lane, _) => activity.swimlane == some lane.id
  match lane with
  | some (_, left) => left + Swimlane.width / 2 - Activity.width / 2 + 30
  | none => 150

/-- The figures of the lanes. -/
def laneFigures (diagram : ActivityDiagram) : List Figure :=
  diagram.lanes.map fun (lane, left) =>
    .plain lane.label lane.style
      (.ofInt left 40 Swimlane.width (100 + diagram.activities.length * 70))

/-- The figures of one step. -/
def stepFigures (diagram : ActivityDiagram) (activity : Activity) : List Figure :=
  if activity.kind.isMarker then []
  else
    match Activity.topOf? diagram.tops activity.id with
    | some top => activity.figures (diagram.columnOf activity) top
    | none => []

/-- The figures of an activity diagram: lanes, partitions, steps, edges. -/
def figures (diagram : ActivityDiagram) : List Figure :=
  diagram.laneFigures ++
  diagram.partitions.filterMap (fun group => group.figure? diagram.activities diagram.tops) ++
  diagram.activities.flatMap diagram.stepFigures ++
  diagram.edges.map fun edge =>
    .link edge.label edgeStyle (.number edge.source) (.number edge.target)

end ActivityDiagram

end Drafting
