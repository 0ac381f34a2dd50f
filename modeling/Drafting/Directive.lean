import Drafting.Text.Scan

/-!
# Directives

Lines with settings for the drawing tool carry nothing of the diagram. They are
known by their beginning, and empty lines are treated like them.
-/

namespace Drafting

open Text

/-- The beginnings of settings that every dialect knows. -/
def directives : List String := ["@", "!", "skinparam", "title"]

/-- The same for the dialects that can also hide parts of a diagram. -/
def directivesWithHide : List String := directives ++ ["hide"]

/-- Whether a line begins with one of some texts. -/
def beginsWithAny (starts : List String) (line : List Char) : Bool :=
  starts.any fun start => (expect start line).isSome

/-- Whether a line is empty or a directive. -/
def isDirective (starts : List String) (line : String) : Bool :=
  line.isEmpty || beginsWithAny starts line.toList

end Drafting
