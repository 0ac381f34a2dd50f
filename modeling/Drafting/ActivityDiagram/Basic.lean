/-!
# Activity diagrams

The steps of an activity in the order of the source, with lanes and partitions
that group them, and the edges along which they follow each other. The branches
of a decision are told apart by marker steps, which are not drawn.
-/

namespace Drafting

/-- The kinds of steps. -/
inductive ActivityKind where
  | start
  | stop
  | action
  | decision
  | merge
  | fork
  | elseifMarker
  | elseMarker
  deriving DecidableEq, Repr

namespace ActivityKind

/-- All kinds. -/
def all : List ActivityKind :=
  [start, stop, action, decision, merge, fork, elseifMarker, elseMarker]

/-- The word for a kind in an exchanged diagram. -/
def text : ActivityKind → String
  | start => "start"
  | stop => "end"
  | action => "action"
  | decision => "decision"
  | merge => "merge"
  | fork => "fork"
  | elseifMarker => "elseif_marker"
  | elseMarker => "else_marker"

/-- Whether a step only marks the beginning of a branch. -/
def isMarker : ActivityKind → Bool
  | elseifMarker | elseMarker => true
  | _ => false

end ActivityKind

/-- A step. Markers and merges name the decision they belong to. -/
structure Activity where
  id : Int
  kind : ActivityKind
  label : String := ""
  swimlane : Option Int := none
  partition : Option Int := none
  relatedDecision : Option Int := none
  yesBranch : Option String := none
  condition : Option String := none
  note : Option String := none
  deriving DecidableEq, Repr

/-- A step that follows another. -/
structure ActivityEdge where
  source : Int
  target : Int
  label : String := ""
  deriving DecidableEq, Repr

/-- A lane of steps. -/
structure Swimlane where
  id : Int
  label : String
  color : Option String := none
  startIndex : Int := 0
  deriving DecidableEq, Repr

/-- A group of steps, given by the first step in it and the first behind it. The
latter is missing as long as the group is open. -/
structure Partition where
  id : Int
  label : String
  startIndex : Int := 0
  endIndex : Option Int := none
  deriving DecidableEq, Repr

/-- An activity diagram. -/
structure ActivityDiagram where
  activities : List Activity := []
  edges : List ActivityEdge := []
  swimlanes : List Swimlane := []
  partitions : List Partition := []
  deriving DecidableEq, Repr

end Drafting
