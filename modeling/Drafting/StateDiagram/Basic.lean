/-!
# State diagrams

States and the transitions between them. The mark `[*]` stands for the first
state where a transition leaves it and for the last where one enters it.
-/

namespace Drafting

/-- Ordinary states, and the two that `[*]` stands for. -/
inductive StateKind where
  | state
  | start
  | stop
  deriving DecidableEq, Repr

namespace StateKind

/-- All kinds. -/
def all : List StateKind := [state, start, stop]

/-- The word for a kind in an exchanged diagram. -/
def text : StateKind → String
  | state => "state"
  | start => "start"
  | stop => "end"

end StateKind

/-- A state. -/
structure State where
  id : Int
  name : String
  label : String
  kind : StateKind := .state
  note : Option String := none
  deriving DecidableEq, Repr

namespace State

/-- The name by which both the first and the last state are written. -/
def pseudoName : String := "[*]"

/-- The key of the first state. -/
def startKey : String := "[*]_start"

/-- The key of the last state. -/
def stopKey : String := "[*]_end"

/-- The key of the state that a transition names at its source or its target. -/
def keyOf (name : String) (isSource : Bool) : String :=
  if name == pseudoName then if isSource then startKey else stopKey else name

/-- The key under which a state is drawn. -/
def key (state : State) : String :=
  match state.kind with
  | .state => state.name
  | .start => startKey
  | .stop => stopKey

end State

/-- A transition from one state to another. -/
structure Transition where
  source : String
  target : String
  label : String := ""
  deriving DecidableEq, Repr

/-- A state diagram. -/
structure StateDiagram where
  states : List State := []
  transitions : List Transition := []
  deriving DecidableEq, Repr

end Drafting
