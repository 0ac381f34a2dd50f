import Drafting.Directive
import Drafting.Mindmap.Basic

/-!
# Reading mind maps

A node is a line that begins with marks, as many as its level. A plus among the
marks puts it on the right side. Its parent is the last node of the level above,
however long ago that was read.
-/

namespace Drafting.Mindmap

open Text

/-- The marks before the text of a node. -/
def isMark (character : Char) : Bool := character == '+' || character == '-' || character == '*'

/-- A line of the outline: its marks and its text. -/
structure Item where
  marks : List Char
  text : List Char
  deriving DecidableEq, Repr

/-- Reads a line of the outline. Where nothing stands behind the marks, the last
of them is the text. -/
def Item.ofLine? (line : String) : Option Item := do
  let (marks, text) ← longest1 isMark line.toList fun rest => anyBlanks rest restOfLine?
  return { marks, text := trim text }

/-- The last node of a level. -/
def lastOfLevel? (map : Mindmap) (level : Int) : Option Int :=
  (map.nodes.reverse.find? fun node => node.level == level).map MindmapNode.id

/-- Adds the node of an item. -/
def addItem (map : Mindmap) (item : Item) : Mindmap :=
  let level : Int := item.marks.length
  let node : MindmapNode :=
    { id := map.nodes.length
      text := String.ofList item.text
      level
      side := if item.marks.contains '+' then .right else .left
      parent := if 1 < level then map.lastOfLevel? (level - 1) else none }
  { nodes := map.nodes ++ [node] }

/-- Reads one more line. -/
def readLine (map : Mindmap) (line : String) : Mindmap :=
  match Item.ofLine? line with
  | some item => map.addItem item
  | none => map

/-- Reads a mind map from its lines. -/
def ofLines (lines : List String) : Mindmap :=
  (lines.filter fun line => !isDirective directives line).foldl readLine {}

end Drafting.Mindmap
