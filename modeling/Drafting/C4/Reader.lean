import Drafting.C4.ElementLine

/-!
# Reading architecture diagrams

The reader goes through the lines once and keeps the blocks that are open, each
by the name of the element around it. A line that opens a block without
declaring an element continues the block around it. The elements are then nested
by the names of their parents, of which the first element of a name counts. An
element whose parents lead in a circle or to an unknown name is left out.
-/

namespace Drafting.C4

open Text

/-- The elements read so far, and the open blocks, innermost first. -/
structure Progress where
  elements : List Element := []
  blocks : List (Option String) := []
  deriving DecidableEq, Repr

namespace Progress

/-- The name of the innermost block. -/
def parent (progress : Progress) : Option String := progress.blocks.head?.join

/-- Reads one more line. -/
def readLine (progress : Progress) (raw : List Char) : Progress :=
  let line := bareLine raw
  if isIgnored line then progress
  else if (expect "\x7d" line).isSome then { progress with blocks := progress.blocks.tail }
  else
    let element := element? progress.parent line
    { elements := progress.elements ++ element.toList
      blocks :=
        if line.getLast? == some '\x7b' then
          (match element with
            | some element => some element.name
            | none => progress.parent) :: progress.blocks
        else progress.blocks }

end Progress

/-- The elements declared in a source, in its order. -/
def declarations (text : String) : List Element :=
  ((split '\n' text.toList).foldl Progress.readLine {}).elements

/-- The position of the first element with a name. -/
def positionOf? (elements : List Element) (name : String) : Option Nat :=
  elements.findIdx? fun element => element.name == name

/-- The position of the element around another, if the other has a known
parent. -/
def parentPosition? (elements : List Element) (element : Element) : Option Nat :=
  element.parent.bind (positionOf? elements)

/-- The positions of the elements inside the one at a given position. -/
def childPositions (elements : List Element) (position : Nat) : List Nat :=
  (elements.zipIdx.filter fun (element, _) =>
    parentPosition? elements element == some position).map Prod.snd

/-- The positions of the elements without a parent. -/
def rootPositions (elements : List Element) : List Nat :=
  (elements.zipIdx.filter fun (element, _) => element.parent.isNone).map Prod.snd

/-- The tree that grows from the element at a position, down to a given number of
levels. -/
def treeAt (elements : List Element) : Nat → Nat → Option Tree
  | 0, _ => none
  | levels + 1, position =>
    elements[position]?.map fun element =>
      .node element ((childPositions elements position).filterMap (treeAt elements levels))

/-- The forest of some elements. Since every element has at most one parent, the
elements between it and a root are all different, and so many levels suffice as
there are elements. -/
def forest (elements : List Element) : List Tree :=
  (rootPositions elements).filterMap (treeAt elements elements.length)

/-- The forest of the elements declared in a source. -/
def trees (text : String) : List Tree := forest (declarations text)

end Drafting.C4
