import Drafting.Figure
import Drafting.Grid
import Drafting.StateDiagram.Basic

/-!
# Drawing state diagrams

States are placed on a grid of four columns, each with its note beside it.
Transitions are links between them.
-/

namespace Drafting

namespace State

/-- The style of the dot that stands for the first state. -/
def startStyle : String := "ellipse;fillColor=#000000;strokeColor=#000000;"

/-- The style of a kind. -/
def styleOf : StateKind → String
  | .state => "rounded=1;whiteSpace=wrap;fillColor=#dae8fc;strokeColor=#6c8ebf;"
  | .start => startStyle
  | .stop => startStyle ++ "strokeWidth=3;"

/-- The style of a note beside a state. -/
def noteStyle : String :=
  "shape=note;whiteSpace=wrap;size=17;fillColor=#fff2cc;strokeColor=#d6b656;"

/-- The width of a state: that of its label, or that of a dot. -/
def width (state : State) : Int :=
  match state.kind with
  | .state => textWidth state.label 120
  | _ => 30

/-- The height of a state. -/
def height (state : State) : Int :=
  match state.kind with
  | .state => 50
  | _ => 30

/-- The figures of a state: the state and, if it has one, its note. -/
def figures (state : State) (x y : Int) : List Figure :=
  let text := state.note.getD ""
  .keyed (.name state.key) state.label (styleOf state.kind) (.ofInt x y state.width state.height) ::
    if text.isEmpty then []
    else [.plain text noteStyle (.ofInt (x + state.width + 10) y 120 60)]

end State

namespace StateDiagram

/-- The grid of a state diagram. -/
def grid : Grid := ⟨4, 100, 180⟩

/-- The style of a transition. -/
def transitionStyle : String := "endArrow=classic;strokeColor=#333333;rounded=0;"

/-- The link of a transition. -/
def transitionFigure (transition : Transition) : Figure :=
  .link transition.label transitionStyle
    (.name (State.keyOf transition.source true)) (.name (State.keyOf transition.target false))

/-- The figures of a state diagram. -/
def figures (diagram : StateDiagram) : List Figure :=
  (grid.spread (fun _ => 100) (grid.start 50) diagram.states).flatMap
    (fun (state, cursor) => state.figures cursor.x cursor.y) ++
  diagram.transitions.map transitionFigure

end StateDiagram

end Drafting
