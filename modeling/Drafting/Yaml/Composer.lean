import Drafting.Yaml.Node
import Drafting.Yaml.Plain
import Drafting.Yaml.Token

/-!
# From tokens to nodes

The tokens of a document are put together to one node. A text must hold one
document only. A reference must stand behind the anchor it names, and no anchor
may be given twice.
-/

namespace Drafting.Yaml

/-- What is left to be read: the tokens, the problem that comes behind the last of
them, what the handles of tags stand for, and the anchors that were given. -/
structure Supply where
  tokens : List Token
  problem : Problem
  handles : List (String × String)
  anchors : List String := []
  deriving Repr

/-- A step of putting a document together. -/
abbrev Composer (α : Type) := StateT Supply (Except Problem) α

namespace Composer

/-- The next token. -/
def peek : Composer Token := do
  match (← get).tokens with
  | token :: _ => return token
  | [] => throw (← get).problem

/-- Passes over a token. -/
def skip : Composer Unit := modify fun supply => { supply with tokens := supply.tokens.tail }

/-- Passes over a token if it is the given one, and tells whether it was. -/
def skipIf (token : Token) : Composer Bool := do
  if (← peek) = token then
    skip
    return true
  else return false

/-- A value where nothing stands. -/
def absent : Node := .scalar .null (some "")

/-- The anchor that stands next, if one does. -/
def anchor? : Composer (Option String) := do
  match ← peek with
  | .anchor anchor =>
    skip
    return some anchor
  | _ => return none

/-- The tag that stands next, if one does. -/
def tag? : Composer (Option WrittenTag) := do
  match ← peek with
  | .tag tag =>
    skip
    return some tag
  | _ => return none

/-- The anchor and the tag before a value, in either order. -/
def properties : Composer (Option String × Option WrittenTag) := do
  match ← anchor? with
  | some anchor => return (some anchor, ← tag?)
  | none =>
    match ← tag? with
    | some tag => return (← anchor?, some tag)
    | none => return (none, none)

/-- The text of a tag. The tag of an exclamation mark alone is no tag. -/
def tagText (written : WrittenTag) : Composer (Option String) := do
  match written.handle with
  | none => return if written.suffix = "!" then none else some written.suffix
  | some handle =>
    match (← get).handles.lookup handle with
    | some handlePrefix => return some (handlePrefix ++ written.suffix)
    | none => throw .malformed

/-- Notes an anchor, which must not have been given before. -/
def giveAnchor : Option String → Composer Unit
  | none => return
  | some anchor => do
    if (← get).anchors.contains anchor then throw .malformed
    modify fun supply => { supply with anchors := anchor :: supply.anchors }

/-- A node with its anchor. -/
def withAnchor (anchor : Option String) (node : Node) : Node :=
  match anchor with
  | some anchor => .anchored anchor node
  | none => node

/-- Where a value stands: between brackets, in lines, or in the lines of a member,
where a list need not be indented further. -/
inductive Place where
  | brackets
  | lines
  | member
  deriving DecidableEq, Repr

/-- Whether nothing stands behind a dash in a list that is not indented. -/
def endsDash (token : Token) : Bool :=
  token == .dash || token == .name || token == .value || token == .lineEnd

/-- Whether nothing stands at a name or a value of a mapping in lines. -/
def endsMember (token : Token) : Bool :=
  token == .name || token == .value || token == .lineEnd

mutual

/-- The value that stands next. The first number bounds the depth and the number of
parts of what is read. -/
def node : Nat → Place → Composer Node
  | 0, _ => throw .malformed
  | fuel + 1, place => do
    if let .reference anchor ← peek then
      skip
      if (← get).anchors.contains anchor then return .reference anchor else throw .malformed
    let (anchor, written) ← properties
    let tag ← match written with
      | some written => tagText written
      | none => pure none
    let tagOr (default : Tag) : Tag := (tag.map Tag.ofText).getD default
    giveAnchor anchor
    match ← peek, place with
    | .dash, .member =>
      return withAnchor anchor (.list (tagOr .list) (← dashes fuel []))
    | .scalar text isPlain, _ =>
      skip
      let default :=
        match text with
        | some text => if isPlain || written.isSome then Plain.tag text.toList else .text
        | none => .text
      return withAnchor anchor (.scalar (tagOr default) text)
    | .bracketListStart, _ =>
      skip
      return withAnchor anchor (.list (tagOr .list) (← bracketElements fuel true []))
    | .bracketMappingStart, _ =>
      skip
      return withAnchor anchor (.mapping (tagOr .mapping) (← bracketMembers fuel true []))
    | .lineListStart, .lines | .lineListStart, .member =>
      skip
      return withAnchor anchor (.list (tagOr .list) (← lineElements fuel []))
    | .lineMappingStart, .lines | .lineMappingStart, .member =>
      skip
      return withAnchor anchor (.mapping (tagOr .mapping) (← lineMembers fuel []))
    | _, _ =>
      if anchor.isSome || written.isSome then
        return withAnchor anchor (.scalar (tagOr .null) (some ""))
      else throw .malformed

/-- The elements of a list in lines, behind those already read. -/
def lineElements : Nat → List Node → Composer (List Node)
  | 0, _ => throw .malformed
  | fuel + 1, elements => do
    if ← skipIf .dash then
      let next ← peek
      let element ← if next == .dash || next == .lineEnd then pure absent else node fuel .lines
      lineElements fuel (elements ++ [element])
    else if ← skipIf .lineEnd then return elements
    else throw .malformed

/-- The elements of a list that is not indented further than the name before it. -/
def dashes : Nat → List Node → Composer (List Node)
  | 0, _ => throw .malformed
  | fuel + 1, elements => do
    if ← skipIf .dash then
      let element ← if endsDash (← peek) then pure absent else node fuel .lines
      dashes fuel (elements ++ [element])
    else return elements

/-- The value of a member of a mapping in lines. -/
def memberValue : Nat → Composer Node
  | 0 => throw .malformed
  | fuel + 1 => do
    if ← skipIf .value then
      if endsMember (← peek) then return absent else node fuel .member
    else return absent

/-- The members of a mapping in lines, behind those already read. -/
def lineMembers : Nat → List (Node × Node) → Composer (List (Node × Node))
  | 0, _ => throw .malformed
  | fuel + 1, members => do
    if ← skipIf .name then
      let name ← if endsMember (← peek) then pure absent else node fuel .member
      let value ← memberValue fuel
      lineMembers fuel (members ++ [(name, value)])
    else if ← skipIf .lineEnd then return members
    else throw .malformed

/-- A value between brackets behind a colon, if there is a colon and a value. -/
def bracketValue (closing : Token) : Nat → Composer Node
  | 0 => throw .malformed
  | fuel + 1 => do
    if ← skipIf .value then
      let next ← peek
      if next == .comma || next == closing then return absent else node fuel .brackets
    else return absent

/-- A name between brackets behind the mark for it. -/
def bracketName (closing : Token) : Nat → Composer Node
  | 0 => throw .malformed
  | fuel + 1 => do
    let next ← peek
    if next == .value || next == .comma || next == closing then return absent
    else node fuel .brackets

/-- The elements of a list between brackets, behind those already read. A name with
its value is a mapping by itself. -/
def bracketElements : Nat → Bool → List Node → Composer (List Node)
  | 0, _, _ => throw .malformed
  | fuel + 1, isFirst, elements => do
    if ← skipIf .bracketListEnd then return elements
    if !isFirst then
      if !(← skipIf .comma) then throw .malformed
    if ← skipIf .bracketListEnd then return elements
    let element ←
      if ← skipIf .name then
        let name ← bracketName .bracketListEnd fuel
        let value ← bracketValue .bracketListEnd fuel
        pure (.mapping .mapping [(name, value)])
      else node fuel .brackets
    bracketElements fuel false (elements ++ [element])

/-- The members of a mapping between brackets, behind those already read. A value
without a colon is a name for nothing. -/
def bracketMembers : Nat → Bool → List (Node × Node) → Composer (List (Node × Node))
  | 0, _, _ => throw .malformed
  | fuel + 1, isFirst, members => do
    if ← skipIf .bracketMappingEnd then return members
    if !isFirst then
      if !(← skipIf .comma) then throw .malformed
    if ← skipIf .bracketMappingEnd then return members
    let member ←
      if ← skipIf .name then
        let name ← bracketName .bracketMappingEnd fuel
        let value ← bracketValue .bracketMappingEnd fuel
        pure (name, value)
      else
        let name ← node fuel .brackets
        pure (name, absent)
    bracketMembers fuel false (members ++ [member])

end

/-- What the handles stand for that need no directive. -/
def usualHandles : List (String × String) := [("!", "!"), ("!!", Tag.languagePrefix)]

/-- Reads the directives before a document. The first number bounds how many there
are. -/
def directives : Nat → Bool → List (String × String) → Composer Unit
  | 0, _, _ => throw .malformed
  | fuel + 1, hasVersion, handles => do
    match ← peek with
    | .directive (.version major) =>
      skip
      if hasVersion || major ≠ 1 then throw .malformed
      directives fuel true handles
    | .directive (.handle handle handlePrefix) =>
      skip
      if (handles.lookup handle).isSome then throw .malformed
      directives fuel hasVersion ((handle, handlePrefix) :: handles)
    | .directive .unknown =>
      skip
      directives fuel hasVersion handles
    | _ => modify fun supply => { supply with handles := handles ++ usualHandles }

/-- The value of a document. A document without an opening mark must hold
something. -/
def content (fuel : Nat) : Composer (Option Node) := do
  match ← peek with
  | .textEnd => return none
  | .directive _ | .documentStart =>
    directives fuel false []
    if !(← skipIf .documentStart) then throw .malformed
    match ← peek with
    | .directive _ | .documentStart | .documentEnd | .textEnd => return some absent
    | _ => return some (← node fuel .lines)
  | _ => return some (← node fuel .lines)

/-- Passes over the marks that end a document. The first number bounds how many
there are. -/
def endMarks : Nat → Composer Unit
  | 0 => throw .malformed
  | fuel + 1 => do
    if ← skipIf .documentEnd then endMarks fuel

/-- Fails behind the directives before a further document. The first number bounds
how many there are. -/
def refuseFurther : Nat → Composer Unit
  | 0 => throw .malformed
  | fuel + 1 => do
    match ← peek with
    | .directive _ =>
      skip
      refuseFurther fuel
    | _ => throw .malformed

/-- The value of the only document of a text, if there is one. -/
def document (fuel : Nat) : Composer (Option Node) := do
  let found ← content fuel
  endMarks fuel
  if !(← skipIf .textEnd) then refuseFurther fuel
  return found

end Composer

/-- The value of the only document that some tokens are, behind which a problem may
come. -/
def compose (tokens : List Token) (problem : Option Problem) : Except Problem (Option Node) :=
  let supply : Supply :=
    { tokens, problem := problem.getD .malformed, handles := Composer.usualHandles }
  (Composer.document (4 * tokens.length + 8)).run' supply

end Drafting.Yaml
