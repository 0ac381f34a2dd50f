import Drafting.DeploymentDiagram.Basic
import Drafting.Directive
import Drafting.Text.Case

/-!
# Reading deployment diagrams

A line declares a node, with a quoted label and a name or with one word that is
both, or it connects two nodes. The keywords of nodes may be written in any case.
A connection adds the nodes it names where they are not known yet.
-/

namespace Drafting.DeploymentDiagram

open Text

/-- What a line says. -/
inductive Statement where
  | node (name label kind : String)
  | connection (connection : Connection)
  deriving DecidableEq, Repr

namespace Statement

/-- The keywords of nodes. -/
def kinds : List String :=
  [ "node", "database", "cloud", "artifact", "folder", "frame", "package", "rectangle",
    "storage" ]

/-- A node with a quoted label and a name. -/
def labelledNode? (line : List Char) : Option Statement := do
  let (kind, rest) ← firstKeyword kinds line
  let rest ← expect "\x22" (← skipBlanks? rest)
  let (label, rest) ← run? (· != '\x22') rest
  let rest ← skipBlanks? (← expect "\x22" rest)
  let (_, rest) ← expectAnyCase "as" rest
  let (name, _) ← word? (← skipBlanks? rest)
  return .node (String.ofList name) (String.ofList label) (String.ofList (lowerKeyword kind))

/-- The characters of a node's name. -/
def isNameCharacter (character : Char) : Bool :=
  character != '\x22' && character != '\x7b' && !isBlank character

/-- A node given by its name, perhaps with an opening brace. -/
def plainNode? (line : List Char) : Option Statement := do
  let (kind, rest) ← firstKeyword kinds line
  optionally '\x22' (← skipBlanks? rest) fun rest => do
    let (name, rest) ← run? isNameCharacter rest
    optionally '\x22' rest fun rest =>
      optionally '\x7b' (dropBlanks rest) fun rest =>
        if atEnd rest then
          some (.node (String.ofList name) (String.ofList name)
            (String.ofList (lowerKeyword kind)))
        else none

/-- The characters of the line of a connection. -/
def isStroke (character : Char) : Bool := character == '-' || character == '.'

/-- Two names with a line between them, with or without a head, and perhaps a
label. A dot in the line makes it dashed. -/
def connection? (line : List Char) : Option Statement := do
  let (source, rest) ← word? line
  let (stroke, rest) ← run? isStroke (dropBlanks rest)
  let (target, rest) ← word? (dropBlanks ((expect ">" rest).getD rest))
  let label ← optionalLabel? rest
  return .connection {
    source := String.ofList source
    target := String.ofList target
    label := String.ofList label
    isDashed := stroke.contains '.' }

/-- The statements in the order in which they are tried. -/
def forms : List (List Char → Option Statement) := [labelledNode?, plainNode?, connection?]

/-- Reads the statement of a line, if it is one. -/
def ofLine? (line : String) : Option Statement := forms.findSome? fun form => form line.toList

end Statement

/-- Adds a node, unless one of that name is known. -/
def addNode (diagram : DeploymentDiagram) (name label kind : String) : DeploymentDiagram :=
  if diagram.nodes.any fun node => node.name == name then diagram
  else
    let node : DeploymentNode := { id := diagram.nodes.length, name, label, kind }
    { diagram with nodes := diagram.nodes ++ [node] }

/-- Adds a connection and the nodes it names. -/
def addConnection (diagram : DeploymentDiagram) (connection : Connection) : DeploymentDiagram :=
  let named :=
    (diagram.addNode connection.source connection.source "node").addNode connection.target
      connection.target "node"
  { named with connections := named.connections ++ [connection] }

/-- Reads one more line. -/
def readLine (diagram : DeploymentDiagram) (line : String) : DeploymentDiagram :=
  match Statement.ofLine? line with
  | some (.node name label kind) => diagram.addNode name label kind
  | some (.connection connection) => diagram.addConnection connection
  | none => diagram

/-- Reads a deployment diagram from its lines. -/
def ofLines (lines : List String) : DeploymentDiagram :=
  (lines.filter fun line => !beginsWithAny directivesWithHide line.toList).foldl readLine {}

end Drafting.DeploymentDiagram
