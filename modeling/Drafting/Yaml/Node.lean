import Drafting.Yaml.Basic

/-!
# Nodes of a YAML document

A document is a tree of scalars, lists and mappings with their tags, in which some
parts have anchors and others refer to them. What the scalars stand for is not
decided here.
-/

namespace Drafting.Yaml

/-- What a part of a document stands for. Two tags have a meaning only in a mapping:
the one of the name under which the members of other mappings are taken over, and
the one of an equals sign, which is a text as a name and nothing anywhere else. -/
inductive Tag where
  | null
  | boolean
  | integer
  | real
  | time
  | text
  | equals
  | merge
  | list
  | mapping
  | unknown
  deriving DecidableEq, Repr

namespace Tag

/-- The beginning of the tags of the language. -/
def languagePrefix : String := "tag:yaml.org,2002:"

/-- The tags that can be written out, behind their common beginning. -/
def written : List (String × Tag) :=
  [ ("null", .null), ("bool", .boolean), ("int", .integer), ("float", .real),
    ("timestamp", .time), ("str", .text), ("value", .equals), ("merge", .merge), ("seq", .list),
    ("map", .mapping) ]

/-- The tag with a given text. -/
def ofText (text : String) : Tag :=
  match Text.expect languagePrefix text.toList with
  | some suffix => (written.lookup (String.ofList suffix)).getD .unknown
  | none => .unknown

end Tag

/-- A part of a document. A scalar has no text if it holds half of a surrogate
pair. -/
inductive Node where
  | scalar (tag : Tag) (text : Option String)
  | list (tag : Tag) (elements : List Node)
  | mapping (tag : Tag) (members : List (Node × Node))
  | anchored (anchor : String) (node : Node)
  | reference (anchor : String)
  deriving Inhabited, Repr

namespace Node

/-- A node behind its anchor. -/
def body : Node → Node
  | anchored _ node => node.body
  | node => node

mutual

/-- The nodes with anchors in a node. -/
def anchors : Node → List (String × Node)
  | scalar _ _ => []
  | list _ elements => elementAnchors elements
  | mapping _ members => memberAnchors members
  | anchored anchor node => (anchor, node) :: node.anchors
  | reference _ => []

/-- The nodes with anchors in some nodes. -/
def elementAnchors : List Node → List (String × Node)
  | [] => []
  | first :: others => first.anchors ++ elementAnchors others

/-- The nodes with anchors in some names and values. -/
def memberAnchors : List (Node × Node) → List (String × Node)
  | [] => []
  | (name, value) :: others => name.anchors ++ (value.anchors ++ memberAnchors others)

end

end Node

end Drafting.Yaml
