import Drafting.Directive
import Drafting.Note
import Drafting.StateDiagram.Statement

/-!
# Reading state diagrams

The reader goes through the lines once. States are added when they are first
named, by a declaration or by a transition. A note belongs to the state that its
opening line names, if that state is known when the note is closed.
-/

namespace Drafting.StateDiagram

open Text

/-- What has been read, and the note that is open with the state it names. -/
structure Progress where
  diagram : StateDiagram := {}
  note : Note := {}
  noteTarget : Option String := none
  deriving DecidableEq, Repr

namespace Progress

/-- Adds a state, unless one with its key is known. -/
def addState (progress : Progress) (name label : String) (kind : StateKind) : Progress :=
  let state : State := { id := progress.diagram.states.length, name, label, kind }
  if progress.diagram.states.any fun known => known.key == state.key then progress
  else
    { progress with diagram := { progress.diagram with
        states := progress.diagram.states ++ [state] } }

/-- Adds the state that a transition names at its source or its target. -/
def addEnd (progress : Progress) (name : String) (isSource : Bool) : Progress :=
  if name == State.pseudoName then
    if isSource then progress.addState name "Start" .start
    else progress.addState name "End" .stop
  else progress.addState name name .state

/-- Carries out a statement. -/
def apply (progress : Progress) : Statement → Progress
  | .declaration name label => progress.addState name label .state
  | .transition source target label =>
    let named := (progress.addEnd source true).addEnd target false
    { named with diagram := { named.diagram with
        transitions := named.diagram.transitions ++ [{ source, target, label }] } }

/-- Gives the text of the closed note to the state it belongs to, if that is
known. -/
def attachNote (progress : Progress) : Progress :=
  let text := progress.note.text
  let noted (state : State) : State :=
    if some state.key = progress.noteTarget then { state with note := some text } else state
  { diagram := { progress.diagram with states := progress.diagram.states.map noted }
    note := Note.closed
    noteTarget := none }

/-- Reads one more line. -/
def readLine (progress : Progress) (line : String) : Progress :=
  let target := notedState? line.toList
  if target.isSome || (expect "note " line.toList).isSome then
    { progress with note := Note.start "", noteTarget := target.map String.ofList }
  else if line == "end note" then progress.attachNote
  else if progress.note.active then { progress with note := progress.note.add line }
  else
    match Statement.ofLine? line with
    | some statement => progress.apply statement
    | none => progress

end Progress

/-- Reads a state diagram from its lines. -/
def ofLines (lines : List String) : StateDiagram :=
  ((lines.filter fun line => !isDirective directivesWithHide line).foldl
    Progress.readLine {}).diagram

end Drafting.StateDiagram
