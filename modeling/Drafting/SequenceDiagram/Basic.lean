/-!
# Sequence diagrams

Participants and the messages between them in the order of the source.
Separators and alternatives are given by the number of messages before them.
-/

namespace Drafting

/-- Participants are drawn as boxes or as persons. -/
inductive ParticipantKind where
  | participant
  | actor
  deriving DecidableEq, Repr

namespace ParticipantKind

/-- All kinds. -/
def all : List ParticipantKind := [participant, actor]

/-- The keyword of a kind. -/
def text : ParticipantKind → String
  | participant => "participant"
  | actor => "actor"

end ParticipantKind

/-- Someone who sends and receives messages. -/
structure Participant where
  name : String
  label : String
  kind : ParticipantKind := .participant
  deriving DecidableEq, Repr

/-- A message from one participant to another. -/
structure Message where
  id : Int
  source : String
  target : String
  text : String := ""
  isReturn : Bool := false
  isAsync : Bool := false
  isDashed : Bool := false
  note : Option String := none
  deriving DecidableEq, Repr

/-- A separator before the message with the given number. -/
structure MessageGroup where
  label : String
  startIndex : Int
  deriving DecidableEq, Repr

/-- A run of messages that happen only under a condition, perhaps with another
run for the opposite case. The end is missing as long as the block is open. -/
structure Fragment where
  label : String
  startIndex : Int
  kind : String := "alt"
  elseIndex : Option Int := none
  endIndex : Option Int := none
  deriving DecidableEq, Repr

/-- A sequence diagram. -/
structure SequenceDiagram where
  participants : List Participant := []
  messages : List Message := []
  groups : List MessageGroup := []
  fragments : List Fragment := []
  deriving DecidableEq, Repr

end Drafting
