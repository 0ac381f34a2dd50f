import Drafting.Text.Case
import Drafting.Text.Scan

/-!
# Detecting architecture diagrams

A source is an architecture diagram if it includes the macros for such diagrams
or calls one of those that are used most.
-/

namespace Drafting.C4

open Text

/-- The name of a macro and the opening parenthesis behind it. -/
def call? (name : String) (text : List Char) : Option (List Char) := do
  let rest ← expect name text
  expect "(" (dropBlanks rest)

/-- The inclusion of a file whose name holds the mark of the macros, in any
case. -/
def inclusion? (text : List Char) : Option Unit := do
  let (_, rest) ← expectAnyCase "!include" text
  let _ ← shortest inLine rest (expectAnyCase "c4")
  return ()

/-- The macros that are looked for. -/
def knownMacros : List String :=
  ["System", "Container", "Component", "System_Ext", "Container_Ext", "Rel"]

/-- Whether a source is an architecture diagram. -/
def isC4 (text : String) : Bool :=
  (search inclusion? text.toList).isSome ||
    knownMacros.any fun name => (search (call? name) text.toList).isSome

end Drafting.C4
