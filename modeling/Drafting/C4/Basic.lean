import Drafting.Text.Lines

/-!
# Architecture diagrams

Persons, systems, containers and components of an architecture, nested by the
blocks in which they are declared, and relations between them.
-/

namespace Drafting.C4

/-- An element as it is declared. It is referred to by its name and shown with its
label. The parent is the name of the element whose block is around it. -/
structure Element where
  name : String
  label : String
  kind : String
  technology : Option String := none
  description : Option String := none
  parent : Option String := none
  deriving DecidableEq, Repr

/-- An element with the elements inside it. -/
inductive Tree where
  | node (element : Element) (children : List Tree)

/-- The parts of a text that are there, with a mark between each two. Empty parts
count as absent. -/
def joinPresent (mark : String) (parts : List String) : String :=
  Text.joinStrings mark (parts.filter fun part => !part.isEmpty)

namespace Element

/-- The text of an element: label, technology and description. -/
def value (element : Element) : String :=
  joinPresent " | " [element.label, element.technology.getD "", element.description.getD ""]

end Element

namespace Tree

/-- The element at the top of a tree. -/
def element : Tree → Element
  | node element _ => element

/-- The trees below the top. -/
def children : Tree → List Tree
  | node _ children => children

mutual

/-- The elements of a tree with their depths, each before those inside it. -/
def flatten (depth : Nat) : Tree → List (Element × Nat)
  | node element children => (element, depth) :: flattenAll (depth + 1) children

/-- The elements of some trees with their depths. -/
def flattenAll (depth : Nat) : List Tree → List (Element × Nat)
  | [] => []
  | first :: others => flatten depth first ++ flattenAll depth others

end

end Tree

/-- A relation between two elements. -/
structure Relation where
  source : String
  target : String
  label : String
  description : String := ""
  deriving DecidableEq, Repr

/-- The text of a relation: label and description. -/
def Relation.value (relation : Relation) : String :=
  joinPresent " - " [relation.label, relation.description]

end Drafting.C4
