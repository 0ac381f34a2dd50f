import Drafting.Yaml.Composer
import Drafting.Yaml.Plain
import Drafting.Yaml.Scanner

/-!
# Values of nodes and texts

The value of a node is computed from the outside to the inside: what stands less
deep in a document is looked at first, and the first problem that is found decides.
A mapping may take over the members of other mappings; its own members come before
theirs, and those of a mapping that is named earlier before those of a later one.

A text is read in three steps: its characters make tokens, the tokens a tree, and
the tree a value. A problem of a later step counts only if there is none of an
earlier one before it.
-/

namespace Drafting.Yaml

/-- The value of a scalar with a tag. -/
def scalarValue (tag : Tag) (text : Option String) : Except Problem Value :=
  match tag, text with
  | .null, _ => .ok .null
  | .text, some text => .ok (.text text)
  | .text, none => .ok .halfText
  | .boolean, some text =>
    let small := String.ofList (text.toList.map Char.toLower)
    if Plain.trueWords.contains small then .ok (.boolean true)
    else if Plain.falseWords.contains small then .ok (.boolean false)
    else .error .malformed
  | .integer, some text => (Plain.integer text.toList).map .integer
  | .real, some text => (Plain.real text.toList).map .real
  | .time, some text =>
    match writtenTime? 1 text.toList with
    | some written =>
      match written.check with
      | .ok time => .ok (.time time)
      | .error problem => .error (.time problem)
    | none => .error .malformed
  | _, _ => .error .malformed

/-- A name and its value in a mapping, and whether they are written in another
place of the document. -/
structure Member where
  name : Node
  value : Node
  isElsewhere : Bool
  deriving Inhabited, Repr

namespace Node

/-- The nodes with anchors, by the names of these. -/
abbrev Anchors := List (String × Node)

/-- Whether a node is the name under which members are taken over. -/
def isMerge (name : Node) : Bool :=
  match name.body with
  | scalar .merge _ => true
  | _ => false

mutual

/-- The members of a mapping, those of other mappings first, so that its own can
take their place. The first number bounds how often members are taken over. -/
def flatten (anchors : Anchors) (isElsewhere : Bool) :
    Nat → List (Node × Node) → Except Problem (List Member)
  | 0, _ => .ok []
  | fuel + 1, members => do
    let merged ← (members.filter fun member => member.1.isMerge).mapM fun member =>
      taken anchors isElsewhere fuel member.2
    let own := (members.filter fun member => !member.1.isMerge).map fun member =>
      Member.mk member.1 member.2 isElsewhere
    return merged.flatten ++ own

/-- The members that are taken over from a mapping or from each mapping of a list,
the last one first. A mapping that takes over itself gives nothing to itself. -/
def taken (anchors : Anchors) (isElsewhere : Bool) :
    Nat → Node → Except Problem (List Member)
  | 0, _ => .ok []
  | fuel + 1, node =>
    match node.body with
    | mapping _ members => flatten anchors isElsewhere fuel members
    | list _ elements => do
      let taken ← elements.mapM (takenOne anchors isElsewhere fuel)
      return taken.reverse.flatten
    | reference anchor =>
      match anchors.lookup anchor with
      | some node => taken (anchors.filter fun other => other.1 != anchor) true fuel node
      | none => .ok []
    | _ => .error .malformed

/-- The members of one mapping of a list from which members are taken over. -/
def takenOne (anchors : Anchors) (isElsewhere : Bool) :
    Nat → Node → Except Problem (List Member)
  | 0, _ => .ok []
  | fuel + 1, node =>
    match node.body with
    | mapping _ members => flatten anchors isElsewhere fuel members
    | reference anchor =>
      match anchors.lookup anchor with
      | some node => takenOne (anchors.filter fun other => other.1 != anchor) true fuel node
      | none => .ok []
    | _ => .error .malformed

end

/-- A problem and how deep in the document it is. -/
abbrev DeepProblem := Nat × Problem

/-- A value, and all problems in it. Where there are problems the value does not
count. -/
abbrev Evaluated := Value × List DeepProblem

/-- What a result is at a depth. -/
def evaluatedAt (depth : Nat) : Except Problem Value → Evaluated
  | .ok value => (value, [])
  | .error problem => (.null, [(depth, problem)])

/-- The node that a reference means, or the node itself. -/
def target (anchors : Anchors) (node : Node) : Node :=
  match node.body with
  | reference anchor => ((anchors.lookup anchor).map body).getD node
  | other => other

/-- The value of a name, which must not hold others. An equals sign is a text
here. -/
def nameValue (anchors : Anchors) (depth : Nat) (name : Node) : Evaluated :=
  match name.target anchors with
  | scalar .equals text => evaluatedAt depth (scalarValue .text text)
  | scalar tag text => evaluatedAt depth (scalarValue tag text)
  | _ => (.null, [(depth, .malformed)])

/-- The value of a node. The first number bounds the depth. -/
def evaluate (anchors : Anchors) : Nat → Nat → Bool → Node → Evaluated
  | 0, depth, _, _ => (.null, [(depth, .malformed)])
  | fuel + 1, depth, isElsewhere, node =>
    let isReference := match node.body with
      | reference _ => true
      | _ => false
    match node.target anchors with
    | scalar tag text => evaluatedAt depth (scalarValue tag text)
    | list tag elements =>
      if isReference || isElsewhere then (.elsewhere, [])
      else if tag ≠ .list then (.null, [(depth, .malformed)])
      else
        let evaluated := elements.map (evaluate anchors fuel (depth + 1) false)
        (.list (evaluated.map Prod.fst), evaluated.flatMap Prod.snd)
    | mapping tag members =>
      if isReference || isElsewhere then (.elsewhere, [])
      else if tag ≠ .mapping then (.null, [(depth, .malformed)])
      else
        match flatten anchors false fuel members with
        | .error problem => (.null, [(depth + 1, problem)])
        | .ok members =>
          let evaluated := members.map fun member =>
            (nameValue anchors (depth + 1) member.name,
              evaluate anchors fuel (depth + 1) member.isElsewhere member.value)
          (.mapping (evaluated.foldl
              (fun members (name, value) => Value.setMember name.1 value.1 members) []),
            evaluated.flatMap fun (name, value) => name.2 ++ value.2)
    | _ => (.null, [(depth, .malformed)])

end Node

/-- The first of the problems that are least deep. -/
def firstProblem? : List Node.DeepProblem → Option Node.DeepProblem
  | [] => none
  | first :: others =>
    match firstProblem? others with
    | none => some first
    | some other => if first.1 ≤ other.1 then some first else some other

/-- The value of a document. The number bounds its depth and how often members are
taken over. -/
def Node.value (fuel : Nat) (node : Node) : Except Problem Value :=
  let (value, problems) := node.evaluate node.anchors fuel 0 false
  match firstProblem? problems with
  | some (_, problem) => .error problem
  | none => .ok value

/-- The characters that a document may hold. -/
def isAllowed (character : Char) : Bool :=
  let code := character.toNat
  code == 0x09 || code == 0x0A || code == 0x0D || (0x20 ≤ code && code ≤ 0x7E) || code == 0x85 ||
    (0xA0 ≤ code && code ≤ 0xFFFD) || 0x10000 ≤ code

/-- The value of a text. A text without a document stands for the null value. -/
def ofText (text : String) : Except Problem Value := do
  let characters := text.toList
  if !characters.all isAllowed then throw .malformed
  let (tokens, problem) := tokens characters
  match ← compose tokens problem with
  | none => return .null
  | some node => node.value ((node.anchors.length + 2) * (2 * tokens.length + 4))

end Drafting.Yaml
