import Drafting.Diagram.Basic
import Drafting.Json.Access

/-!
# Diagrams as JSON values

Every part of a diagram is an object with one member per property, and a diagram
tells its dialect. Absent properties are null; a partition that is never closed
ends at minus one.
-/

namespace Drafting

/-- A relation as a JSON value. -/
def Relation.toJson (relation : Relation) : Json :=
  .object [
    ("source", .string relation.source), ("target", .string relation.target),
    ("kind", .string relation.kind.text), ("label", .string relation.label)]

/-- An actor as a JSON value. -/
def Actor.toJson (actor : Actor) : Json :=
  .object [("name", .string actor.name), ("label", .string actor.label)]

/-- The properties of a class member. -/
def ClassMember.properties (member : ClassMember) : List (String × Json) :=
  [ ("name", .string member.name), ("type", .string member.type),
    ("visibility", .string member.visibility), ("is_method", .boolean member.isMethod)]

/-- A class member as a JSON value. -/
def ClassMember.toJson (member : ClassMember) : Json := .object member.properties

/-- A class box as a JSON value. -/
def ClassBox.toJson (box : ClassBox) : Json :=
  .object [
    ("name", .string box.name), ("kind", .string box.kind.text),
    ("attributes", .ofList ClassMember.toJson box.attributes),
    ("methods", .ofList ClassMember.toJson box.methods)]

/-- An activity as a JSON value. -/
def Activity.toJson (activity : Activity) : Json :=
  .object [
    ("id", .integer activity.id), ("kind", .string activity.kind.text),
    ("label", .string activity.label),
    ("swimlane", .ofOption .integer activity.swimlane),
    ("partition", .ofOption .integer activity.partition),
    ("related_decision", .ofOption .integer activity.relatedDecision),
    ("yes_branch", .ofOption .string activity.yesBranch),
    ("condition", .ofOption .string activity.condition),
    ("note", .ofOption .string activity.note)]

/-- An edge between activities as a JSON value. -/
def ActivityEdge.toJson (edge : ActivityEdge) : Json :=
  .object [
    ("source", .integer edge.source), ("target", .integer edge.target),
    ("label", .string edge.label)]

/-- A swimlane as a JSON value. -/
def Swimlane.toJson (lane : Swimlane) : Json :=
  .object [
    ("id", .integer lane.id), ("label", .string lane.label),
    ("color", .ofOption .string lane.color), ("start_index", .integer lane.startIndex)]

/-- The end of a partition that is never closed. -/
def Partition.openEnd : Int := -1

/-- A partition as a JSON value. -/
def Partition.toJson (group : Partition) : Json :=
  .object [
    ("id", .integer group.id), ("label", .string group.label),
    ("start_index", .integer group.startIndex),
    ("end_index", .integer (group.endIndex.getD openEnd))]

/-- A participant as a JSON value. -/
def Participant.toJson (participant : Participant) : Json :=
  .object [
    ("name", .string participant.name), ("label", .string participant.label),
    ("kind", .string participant.kind.text)]

/-- A message as a JSON value. -/
def Message.toJson (message : Message) : Json :=
  .object [
    ("id", .integer message.id), ("source", .string message.source),
    ("target", .string message.target), ("text", .string message.text),
    ("is_return", .boolean message.isReturn), ("is_async", .boolean message.isAsync),
    ("is_dashed", .boolean message.isDashed), ("note", .ofOption .string message.note)]

/-- A group of messages as a JSON value. -/
def MessageGroup.toJson (group : MessageGroup) : Json :=
  .object [("label", .string group.label), ("start_index", .integer group.startIndex)]

/-- A fragment as a JSON value. -/
def Fragment.toJson (fragment : Fragment) : Json :=
  .object [
    ("label", .string fragment.label), ("start_index", .integer fragment.startIndex),
    ("kind", .string fragment.kind), ("else_index", .ofOption .integer fragment.elseIndex),
    ("end_index", .ofOption .integer fragment.endIndex)]

/-- A state as a JSON value. -/
def State.toJson (state : State) : Json :=
  .object [
    ("id", .integer state.id), ("name", .string state.name), ("label", .string state.label),
    ("kind", .string state.kind.text), ("note", .ofOption .string state.note)]

/-- A transition as a JSON value. -/
def Transition.toJson (transition : Transition) : Json :=
  .object [
    ("source", .string transition.source), ("target", .string transition.target),
    ("label", .string transition.label)]

/-- A use case as a JSON value. -/
def UseCase.toJson (useCase : UseCase) : Json :=
  .object [
    ("name", .string useCase.name), ("label", .string useCase.label),
    ("rectangle", .ofOption .string useCase.rectangle)]

/-- A rectangle as a JSON value. -/
def Rectangle.toJson (rectangle : Rectangle) : Json :=
  .object [("label", .string rectangle.label), ("usecases", .ofList .string rectangle.useCases)]

/-- A node of a mind map as a JSON value. -/
def MindmapNode.toJson (node : MindmapNode) : Json :=
  .object [
    ("id", .integer node.id), ("text", .string node.text), ("level", .integer node.level),
    ("side", .string node.side.text), ("parent", .ofOption .integer node.parent)]

/-- An attribute of an entity as a JSON value. -/
def EntityAttribute.toJson (column : EntityAttribute) : Json :=
  .object [
    ("name", .string column.name), ("type", .string column.type),
    ("is_primary_key", .boolean column.isPrimaryKey)]

/-- An entity as a JSON value. -/
def Entity.toJson (entity : Entity) : Json :=
  .object [
    ("id", .integer entity.id), ("name", .string entity.name), ("label", .string entity.label),
    ("attributes", .ofList EntityAttribute.toJson entity.attributes)]

/-- A relationship as a JSON value. -/
def Relationship.toJson (relationship : Relationship) : Json :=
  .object [
    ("source", .string relationship.source), ("target", .string relationship.target),
    ("label", .string relationship.label),
    ("source_cardinality", .string relationship.sourceCardinality),
    ("target_cardinality", .string relationship.targetCardinality)]

/-- A node of a deployment as a JSON value. -/
def DeploymentNode.toJson (node : DeploymentNode) : Json :=
  .object [
    ("id", .integer node.id), ("name", .string node.name), ("label", .string node.label),
    ("kind", .string node.kind)]

/-- A connection as a JSON value. -/
def Connection.toJson (connection : Connection) : Json :=
  .object [
    ("source", .string connection.source), ("target", .string connection.target),
    ("label", .string connection.label), ("is_dashed", .boolean connection.isDashed)]

namespace Diagram

/-- The properties of a diagram. -/
def properties : Diagram → List (String × Json)
  | .classes diagram =>
    [ ("classes", .ofList ClassBox.toJson diagram.classes),
      ("relations", .ofList Relation.toJson diagram.relations),
      ("actors", .ofList Actor.toJson diagram.actors)]
  | .sequence diagram =>
    [ ("participants", .ofList Participant.toJson diagram.participants),
      ("messages", .ofList Message.toJson diagram.messages),
      ("groups", .ofList MessageGroup.toJson diagram.groups),
      ("fragments", .ofList Fragment.toJson diagram.fragments)]
  | .activity diagram =>
    [ ("activities", .ofList Activity.toJson diagram.activities),
      ("edges", .ofList ActivityEdge.toJson diagram.edges),
      ("swimlanes", .ofList Swimlane.toJson diagram.swimlanes),
      ("partitions", .ofList Partition.toJson diagram.partitions)]
  | .state diagram =>
    [ ("states", .ofList State.toJson diagram.states),
      ("transitions", .ofList Transition.toJson diagram.transitions)]
  | .useCase diagram =>
    [ ("actors", .ofList Actor.toJson diagram.actors),
      ("usecases", .ofList UseCase.toJson diagram.useCases),
      ("relations", .ofList Relation.toJson diagram.relations),
      ("rectangles", .ofList Rectangle.toJson diagram.rectangles)]
  | .mindmap map => [("nodes", .ofList MindmapNode.toJson map.nodes)]
  | .entities diagram =>
    [ ("entities", .ofList Entity.toJson diagram.entities),
      ("relationships", .ofList Relationship.toJson diagram.relationships)]
  | .deployment diagram =>
    [ ("nodes", .ofList DeploymentNode.toJson diagram.nodes),
      ("connections", .ofList Connection.toJson diagram.connections)]

/-- A diagram as a JSON value. -/
def toJson (diagram : Diagram) : Json :=
  .object (("type", .string diagram.dialect.text) :: diagram.properties)

end Diagram

end Drafting
