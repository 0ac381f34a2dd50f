import Drafting.C4.Basic
import Drafting.Text.Scan

/-!
# Element lines

An element is declared by a macro call with a name, a label, a technology and a
description, of which all but the name may be absent. Arguments that begin with
a dollar sign say what they are and do not count as technology or description.
Quotation marks are left out before a line is read, so a comma always separates
arguments.
-/

namespace Drafting.C4

open Text

/-- The macros that declare elements. -/
def elementKinds : List String :=
  [ "Person", "Person_Ext", "System", "SystemDb", "SystemQueue", "System_Ext", "SystemDb_Ext",
    "SystemQueue_Ext", "Container", "ContainerDb", "ContainerQueue", "Container_Ext",
    "ContainerDb_Ext", "ContainerQueue_Ext", "Component", "ComponentDb", "ComponentQueue",
    "Component_Ext", "ComponentDb_Ext", "ComponentQueue_Ext" ]

/-- The beginnings of lines that declare nothing and close nothing. -/
def ignored : List String :=
  [ "!include", "@start", "@end", "\x27", "LAYOUT_", "SHOW_LEGEND", "title", "scale", "Update",
    "AddRelTag", "AddElementTag" ]

/-- The macros that declare relations: one way or both ways, perhaps with a
direction. -/
def relationMacro? (text : List Char) : Option (List Char) := do
  let rest ← expect "Rel" ((expect "Bi" text).getD text)
  let plain := expect "(" (dropBlanks rest)
  let directed := do
    let (_, rest) ← word? (← expect "_" rest)
    expect "(" (dropBlanks rest)
  directed <|> plain

/-- Whether a line is passed over. -/
def isIgnored (line : List Char) : Bool :=
  line.isEmpty || (ignored.any fun start => (expect start line).isSome) ||
    (relationMacro? line).isSome

/-- The name of a macro and its arguments. The last opening parenthesis that is
closed behind it begins the arguments, and the last closing one ends them. -/
def macroCall? (line : List Char) : Option (List Char × List Char) := do
  let (name, arguments, _) ← longest inLine line fun rest => do
    let rest ← expect "(" rest
    longest inLine rest (expect ")")
  return (name, arguments)

/-- The element with the given arguments. -/
def elementOf? (kind : String) (arguments : List String) (parent : Option String) :
    Option Element :=
  match arguments with
  | [] => none
  | name :: others =>
    if name.isEmpty then none
    else
      let label := others.head?.getD ""
      let positional := arguments.filter fun argument => (expect "$" argument.toList).isNone
      some {
        name
        label := if label.isEmpty then name else label
        kind
        technology := positional[2]?
        description := positional[3]?
        parent }

/-- Reads the element declared in a line, given the name of the block around
it. -/
def element? (parent : Option String) (line : List Char) : Option Element := do
  let (name, arguments) ← macroCall? line
  let kind := String.ofList (trim name)
  if elementKinds.contains kind then
    elementOf? kind ((split ',' arguments).map fun argument => String.ofList (trim argument)) parent
  else none

/-- A line as it is read: trimmed and without quotation marks. -/
def bareLine (line : List Char) : List Char := (trim line).filter fun character =>
  character != '\x22'

end Drafting.C4
