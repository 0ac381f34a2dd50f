import Drafting.ClassDiagram.Basic
import Drafting.Text.Lines

/-!
# Member lines

A line in the body of a class is a member: an optional visibility sign, a name
and, behind a colon, a type. A member with an opening parenthesis is a method.
-/

namespace Drafting.ClassMember

/-- The signs of visibility. -/
def isVisibility (character : Char) : Bool :=
  character == '+' || character == '-' || character == '#' || character == '~'

/-- The visibility sign of a line and what stands behind it. A line without a
sign is public. -/
def splitVisibility (line : List Char) : Char × List Char :=
  match line with
  | character :: rest => if isVisibility character then (character, rest) else ('+', line)
  | [] => ('+', [])

/-- The name and the type in the text of a member. What stands behind a second
colon is dropped. -/
def splitType (content : List Char) : List Char × List Char :=
  match Text.split ':' content with
  | name :: type :: _ => (Text.trim name, Text.trim type)
  | _ => (content, [])

/-- Reads a member line. -/
def ofLine (line : String) : ClassMember :=
  let (visibility, rest) := splitVisibility line.toList
  let content := Text.trim rest
  let (name, type) := splitType content
  { name := String.ofList name
    type := String.ofList type
    visibility := String.singleton visibility
    isMethod := content.contains '(' }

end Drafting.ClassMember
