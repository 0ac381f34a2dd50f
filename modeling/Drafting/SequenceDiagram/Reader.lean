import Drafting.Choice
import Drafting.Directive
import Drafting.Note
import Drafting.SequenceDiagram.Statement

/-!
# Reading sequence diagrams

The reader goes through the lines once. Participants are registered when they
are first named, by a declaration or by a message. It keeps the alternatives
that are open, innermost first, and the note it is collecting. A note belongs to
the message before it and holds the line that opened it.
-/

namespace Drafting.SequenceDiagram

open Text

/-- What has been read, and what is open. An open alternative is given by its
position in the list of fragments. -/
structure Progress where
  diagram : SequenceDiagram := {}
  alternatives : List Nat := []
  note : Note := {}
  deriving DecidableEq, Repr

namespace Progress

/-- The number of messages, which is also the identifier of the next one. -/
def count (progress : Progress) : Int := progress.diagram.messages.length

/-- Adds a participant, unless one of that name is known. An empty label is
replaced by the name. -/
def register (progress : Progress) (name label : String) (kind : ParticipantKind) : Progress :=
  if progress.diagram.participants.any fun participant => participant.name == name then progress
  else
    let participant : Participant :=
      { name, label := if label.isEmpty then name else label, kind }
    { progress with diagram := { progress.diagram with
        participants := progress.diagram.participants ++ [participant] } }

/-- Changes the innermost open fragment. -/
def changeFragment (progress : Progress) (position : Nat) (change : Fragment → Fragment) :
    Progress :=
  { progress with diagram := { progress.diagram with
      fragments := progress.diagram.fragments.modify position change } }

/-- Opens an alternative. -/
def openAlternative (progress : Progress) (label : String) : Progress :=
  let fragment : Fragment := { label, startIndex := progress.count }
  { progress with
    diagram := { progress.diagram with
      fragments := progress.diagram.fragments ++ [fragment] }
    alternatives := progress.diagram.fragments.length :: progress.alternatives }

/-- Begins the opposite case of the innermost alternative, if one is open. -/
def otherwise (progress : Progress) : Progress :=
  match progress.alternatives with
  | [] => progress
  | innermost :: _ =>
    progress.changeFragment innermost fun fragment =>
      { fragment with elseIndex := some progress.count }

/-- Closes the innermost alternative, if one is open. -/
def close (progress : Progress) : Progress :=
  match progress.alternatives with
  | [] => progress
  | innermost :: outer =>
    { progress.changeFragment innermost fun fragment =>
        { fragment with endIndex := some progress.count } with
      alternatives := outer }

/-- Adds a message and registers its ends. -/
def addMessage (progress : Progress) (line : MessageLine) : Progress :=
  let registered :=
    (progress.register line.source line.source .participant).register line.target line.target
      .participant
  let arrow := line.arrow.toList
  let message : Message :=
    { id := progress.count
      source := line.source
      target := line.target
      text := line.text
      isReturn := occursIn "<" arrow || occursIn "--" arrow
      isAsync := occursIn ">>" arrow
      isDashed := occursIn "--" arrow || occursIn ".." arrow }
  { registered with diagram := { registered.diagram with
      messages := registered.diagram.messages ++ [message] } }

/-- Carries out a statement. -/
def apply (progress : Progress) : Statement → Except UnknownWord Progress
  | .group label =>
    .ok { progress with diagram := { progress.diagram with
      groups := progress.diagram.groups ++ [{ label, startIndex := progress.count }] } }
  | .openAlternative label => .ok (progress.openAlternative label)
  | .otherwise => .ok progress.otherwise
  | .close => .ok progress.close
  | .declaration keyword name label =>
    (choose "ParticipantKind" ParticipantKind.all ParticipantKind.text keyword).map
      (progress.register name label)
  | .message line => .ok (progress.addMessage line)

/-- Gives the text of the closed note to the last message, if there is one. -/
def attachNote (progress : Progress) : Progress :=
  let messages :=
    match progress.diagram.messages.getLast? with
    | none => []
    | some last =>
      progress.diagram.messages.dropLast ++ [{ last with note := some progress.note.text }]
  { progress with
    diagram := { progress.diagram with messages }
    note := Note.closed }

/-- Reads one more line. -/
def readLine (progress : Progress) (line : String) : Except UnknownWord Progress :=
  if (expect "note " line.toList).isSome then .ok { progress with note := Note.start line }
  else if line == "end note" then .ok progress.attachNote
  else if progress.note.active then .ok { progress with note := progress.note.add line }
  else
    match Statement.ofLine? line with
    | some statement => progress.apply statement
    | none => .ok progress

/-- Reads lines one after the other, up to the first error. -/
def readLines (progress : Progress) : List String → Except UnknownWord Progress
  | [] => .ok progress
  | line :: rest =>
    match progress.readLine line with
    | .ok progress => progress.readLines rest
    | .error unknown => .error unknown

end Progress

/-- Reads a sequence diagram from its lines. -/
def ofLines (lines : List String) : Except UnknownWord SequenceDiagram :=
  (Progress.readLines {} (lines.filter fun line => !isDirective directivesWithHide line)).map
    Progress.diagram

end Drafting.SequenceDiagram
