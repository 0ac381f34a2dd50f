/-!
# Mind maps

The nodes of a mind map in the order of the source, each with its level, the
side of the root it stands on, and the node above it.
-/

namespace Drafting

/-- The sides of a mind map. -/
inductive Side where
  | left
  | right
  deriving DecidableEq, Repr

namespace Side

/-- Both sides. -/
def all : List Side := [left, right]

/-- The word for a side in an exchanged diagram. -/
def text : Side → String
  | left => "left"
  | right => "right"

end Side

/-- A node of a mind map. Roots have level one and no parent. -/
structure MindmapNode where
  id : Int
  text : String
  level : Int
  side : Side := .right
  parent : Option Int := none
  deriving DecidableEq, Repr

/-- A mind map. -/
structure Mindmap where
  nodes : List MindmapNode := []
  deriving DecidableEq, Repr

end Drafting
