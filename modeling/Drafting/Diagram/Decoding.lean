import Drafting.Choice
import Drafting.Diagram.Encoding
import Drafting.Json.Writer

/-!
# Diagrams from JSON values

What the encoding of diagrams writes is read back. Properties may be left out
where they have a default; a word for a kind that does not exist is an error.
-/

namespace Drafting

/-- The kind that a member names, or the default if there is no such member. Only
a string can name one. -/
def Json.kindAt {α : Type} (expected : String) (all : List α) (word : α → String) (default : α)
    (name : String) (value : Json) : Except UnknownWord α :=
  match value.member? name with
  | some (.string given) => choose expected all word given
  | some other => .error { given := String.ofList other.shown, expected }
  | none => .ok default

/-- A member that becomes a part of a longer text. What is no string stands there as
it is shown in messages. -/
def Json.partAt (name : String) (value : Json) (default : String := "") : String :=
  match value.member? name with
  | some (.string text) => text
  | some other => String.ofList other.shown
  | none => default

/-- The relation of a JSON value. -/
def Relation.ofJson (value : Json) : Except UnknownWord Relation := do
  let kind ← value.kindAt "RelationKind" RelationKind.all RelationKind.text .association "kind"
  return {
    source := value.textAt "source"
    target := value.textAt "target"
    kind
    label := value.textAt "label" }

/-- The actor of a JSON value. -/
def Actor.ofJson (value : Json) : Actor :=
  { name := value.textAt "name", label := value.textAt "label" }

/-- The class member of a JSON value. -/
def ClassMember.ofJson (value : Json) : ClassMember :=
  { name := value.partAt "name"
    type := value.textAt "type"
    visibility := value.partAt "visibility" "+"
    isMethod := value.booleanAt "is_method" }

/-- The class box of a JSON value. -/
def ClassBox.ofJson (value : Json) : Except UnknownWord ClassBox := do
  let kind ← value.kindAt "ClassKind" ClassKind.all ClassKind.text .concrete "kind"
  return {
    name := value.textAt "name"
    kind
    attributes := (value.elementsAt "attributes").map ClassMember.ofJson
    methods := (value.elementsAt "methods").map ClassMember.ofJson }

/-- The activity of a JSON value. -/
def Activity.ofJson (value : Json) : Except UnknownWord Activity := do
  let kind ← value.kindAt "ActivityKind" ActivityKind.all ActivityKind.text .action "kind"
  return {
    id := value.integerAt "id"
    kind
    label := value.textAt "label"
    swimlane := value.integerAt? "swimlane"
    partition := value.integerAt? "partition"
    relatedDecision := value.integerAt? "related_decision"
    yesBranch := value.textAt? "yes_branch"
    condition := value.textAt? "condition"
    note := value.textAt? "note" }

/-- The edge between activities of a JSON value. -/
def ActivityEdge.ofJson (value : Json) : ActivityEdge :=
  { source := value.integerAt "source"
    target := value.integerAt "target"
    label := value.textAt "label" }

/-- The swimlane of a JSON value. -/
def Swimlane.ofJson (value : Json) : Swimlane :=
  { id := value.integerAt "id"
    label := value.textAt "label"
    color := value.textAt? "color"
    startIndex := value.integerAt "start_index" }

/-- The partition of a JSON value. -/
def Partition.ofJson (value : Json) : Partition :=
  { id := value.integerAt "id"
    label := value.textAt "label"
    startIndex := value.integerAt "start_index"
    endIndex := (value.integerAt? "end_index").filter (· != openEnd) }

/-- The participant of a JSON value. -/
def Participant.ofJson (value : Json) : Except UnknownWord Participant := do
  let kind ← value.kindAt "ParticipantKind" ParticipantKind.all ParticipantKind.text .participant
    "kind"
  return { name := value.textAt "name", label := value.textAt "label", kind }

/-- The message of a JSON value. -/
def Message.ofJson (value : Json) : Message :=
  { id := value.integerAt "id"
    source := value.textAt "source"
    target := value.textAt "target"
    text := value.textAt "text"
    isReturn := value.booleanAt "is_return"
    isAsync := value.booleanAt "is_async"
    isDashed := value.booleanAt "is_dashed"
    note := value.textAt? "note" }

/-- The group of messages of a JSON value. -/
def MessageGroup.ofJson (value : Json) : MessageGroup :=
  { label := value.textAt "label", startIndex := value.integerAt "start_index" }

/-- The fragment of a JSON value. -/
def Fragment.ofJson (value : Json) : Fragment :=
  { label := value.partAt "label"
    startIndex := value.integerAt "start_index"
    kind := value.partAt "kind" "alt"
    elseIndex := value.integerAt? "else_index"
    endIndex := value.integerAt? "end_index" }

/-- The state of a JSON value. -/
def State.ofJson (value : Json) : Except UnknownWord State := do
  let kind ← value.kindAt "StateKind" StateKind.all StateKind.text .state "kind"
  return {
    id := value.integerAt "id"
    name := value.textAt "name"
    label := value.textAt "label"
    kind
    note := value.textAt? "note" }

/-- The transition of a JSON value. -/
def Transition.ofJson (value : Json) : Transition :=
  { source := value.textAt "source"
    target := value.textAt "target"
    label := value.textAt "label" }

/-- The use case of a JSON value. -/
def UseCase.ofJson (value : Json) : UseCase :=
  { name := value.textAt "name"
    label := value.textAt "label"
    rectangle := value.textAt? "rectangle" }

/-- The rectangle of a JSON value. -/
def Rectangle.ofJson (value : Json) : Rectangle :=
  { label := value.textAt "label", useCases := value.textsAt "usecases" }

/-- The node of a mind map of a JSON value. -/
def MindmapNode.ofJson (value : Json) : Except UnknownWord MindmapNode := do
  let side ← value.kindAt "Side" Side.all Side.text .right "side"
  return {
    id := value.integerAt "id"
    text := value.textAt "text"
    level := value.integerAt "level"
    side
    parent := value.integerAt? "parent" }

/-- The attribute of an entity of a JSON value. -/
def EntityAttribute.ofJson (value : Json) : EntityAttribute :=
  { name := value.textAt "name"
    type := value.textAt "type"
    isPrimaryKey := value.booleanAt "is_primary_key" }

/-- The entity of a JSON value. -/
def Entity.ofJson (value : Json) : Entity :=
  { id := value.integerAt "id"
    name := value.textAt "name"
    label := value.textAt "label"
    attributes := (value.elementsAt "attributes").map EntityAttribute.ofJson }

/-- The relationship of a JSON value. -/
def Relationship.ofJson (value : Json) : Relationship :=
  { source := value.textAt "source"
    target := value.textAt "target"
    label := value.textAt "label"
    sourceCardinality := value.textAt "source_cardinality" "1"
    targetCardinality := value.textAt "target_cardinality" "n" }

/-- The node of a deployment of a JSON value. -/
def DeploymentNode.ofJson (value : Json) : DeploymentNode :=
  { id := value.integerAt "id"
    name := value.textAt "name"
    label := value.textAt "label"
    kind := value.textAt "kind" "node" }

/-- The connection of a JSON value. -/
def Connection.ofJson (value : Json) : Connection :=
  { source := value.textAt "source"
    target := value.textAt "target"
    label := value.textAt "label"
    isDashed := value.booleanAt "is_dashed" }

namespace Diagram

/-- The diagram of a given dialect of a JSON value. -/
def ofProperties (dialect : Dialect) (value : Json) : Except UnknownWord Diagram :=
  match dialect with
  | .classes => do
    let classes ← (value.elementsAt "classes").mapM ClassBox.ofJson
    let relations ← (value.elementsAt "relations").mapM Relation.ofJson
    return .classes { classes, relations, actors := (value.elementsAt "actors").map Actor.ofJson }
  | .sequence => do
    let participants ← (value.elementsAt "participants").mapM Participant.ofJson
    return .sequence {
      participants
      messages := (value.elementsAt "messages").map Message.ofJson
      groups := (value.elementsAt "groups").map MessageGroup.ofJson
      fragments := (value.elementsAt "fragments").map Fragment.ofJson }
  | .activity => do
    let activities ← (value.elementsAt "activities").mapM Activity.ofJson
    return .activity {
      activities
      edges := (value.elementsAt "edges").map ActivityEdge.ofJson
      swimlanes := (value.elementsAt "swimlanes").map Swimlane.ofJson
      partitions := (value.elementsAt "partitions").map Partition.ofJson }
  | .state => do
    let states ← (value.elementsAt "states").mapM State.ofJson
    return .state {
      states, transitions := (value.elementsAt "transitions").map Transition.ofJson }
  | .useCase => do
    let relations ← (value.elementsAt "relations").mapM Relation.ofJson
    return .useCase {
      actors := (value.elementsAt "actors").map Actor.ofJson
      useCases := (value.elementsAt "usecases").map UseCase.ofJson
      relations
      rectangles := (value.elementsAt "rectangles").map Rectangle.ofJson }
  | .mindmap => do
    let nodes ← (value.elementsAt "nodes").mapM MindmapNode.ofJson
    return .mindmap { nodes }
  | .entities => .ok (.entities {
      entities := (value.elementsAt "entities").map Entity.ofJson
      relationships := (value.elementsAt "relationships").map Relationship.ofJson })
  | .deployment => .ok (.deployment {
      nodes := (value.elementsAt "nodes").map DeploymentNode.ofJson
      connections := (value.elementsAt "connections").map Connection.ofJson })

/-- The diagram of a JSON value, which must tell its dialect. -/
def ofJson (value : Json) : Except UnknownWord Diagram := do
  let dialect ← choose "DiagramType" Dialect.all Dialect.text (value.textAt "type")
  ofProperties dialect value

end Diagram

end Drafting
