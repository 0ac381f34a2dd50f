import Drafting.ActivityDiagram.Basic

/-!
# The flow of an activity

The edges of an activity are found in the list of its steps. A step is followed
by the next one, and a decision also by the steps behind its markers. A marker
neither begins nor ends an edge: it closes the branch before it, so an edge that
would end in a marker ends in the merge of the marker's decision, or is left out
if the block was never closed.
-/

namespace Drafting.Activity

/-- The merge that closes the block of a decision; the last one counts. -/
def mergeOf? (activities : List Activity) (decision : Int) : Option Int :=
  (activities.reverse.find? fun activity =>
    activity.kind == .merge && activity.relatedDecision == some decision).map Activity.id

/-- The step in which an edge to a given step ends. -/
def arrival? (activities : List Activity) (activity : Activity) : Option Int :=
  if activity.kind.isMarker then activity.relatedDecision.bind (mergeOf? activities)
  else some activity.id

/-- The edge from one step to another, if there is one. -/
def edge? (activities : List Activity) (source target : Activity) (label : String) :
    Option ActivityEdge :=
  (arrival? activities target).map fun target => { source := source.id, target, label }

/-- The edges of a decision to the steps behind its markers, where `following`
are the steps behind it. A marker at the very end has no step behind it. -/
def markerEdges (activities : List Activity) (decision : Activity) :
    List Activity → List ActivityEdge
  | marker :: next :: rest =>
    let edge :=
      if marker.kind.isMarker && marker.relatedDecision == some decision.id then
        (edge? activities decision next marker.label).toList
      else []
    edge ++ markerEdges activities decision (next :: rest)
  | _ => []

/-- The edges that begin in a step, where `following` are the steps behind it. -/
def edgesFrom (activities : List Activity) (current : Activity) (following : List Activity) :
    List ActivityEdge :=
  match following with
  | [] => []
  | next :: _ =>
    if current.kind.isMarker then []
    else
      (edge? activities current next (current.yesBranch.getD "")).toList ++
        if current.kind == .decision then markerEdges activities current following else []

/-- The edges that begin in the steps of a list, step by step. -/
def edgesAlong (activities : List Activity) : List Activity → List ActivityEdge
  | [] => []
  | current :: following =>
    edgesFrom activities current following ++ edgesAlong activities following

/-- The edges of an activity. -/
def edges (activities : List Activity) : List ActivityEdge := edgesAlong activities activities

end Drafting.Activity
