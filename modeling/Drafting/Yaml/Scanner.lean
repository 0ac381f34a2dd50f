import Drafting.Yaml.Property
import Drafting.Yaml.Scalar

/-!
# Reading the tokens of a YAML document

Outside of brackets the column in which a line begins tells where lists and
mappings begin and end. That a scalar is the name of a member is known only when
its colon comes: the place of every token that may be such a name is kept until
then, and the tokens before the name are put in there. A name must stand in the
line of its colon, not too far before it.

Reading stops at the first problem. The tokens before it that are certain are kept,
because what they say may be wrong already.
-/

namespace Drafting.Yaml

/-- A token that may turn out to be a name: its number among the tokens and its
place. It must be one if nothing else may stand at its column. -/
structure PossibleName where
  number : Nat
  isRequired : Bool
  line : Nat
  column : Nat
  index : Nat
  deriving DecidableEq, Repr

/-- How far tokens have been read. The tokens that may be names are kept one for
each open bracket, the innermost first, and one for the lines outside. The open
lists and mappings outside of brackets have their columns in `indents`, the
innermost first; outside of them all the indent is below any column. -/
structure Scan where
  cursor : Cursor
  tokens : Array Token := #[]
  names : List (Option PossibleName) := [none]
  indent : Int := -1
  indents : List Int := []
  allowsName : Bool := true
  deriving Repr

namespace Scan

/-- Whether a bracket is open. -/
def inBrackets (scan : Scan) : Bool := decide (1 < scan.names.length)

/-- Adds a token. -/
def push (scan : Scan) (token : Token) : Scan := { scan with tokens := scan.tokens.push token }

/-- Passes over some characters that are a token. -/
def pushMark (scan : Scan) (count : Nat) (token : Token) : Scan :=
  { scan with tokens := scan.tokens.push token, cursor := scan.cursor.advance count }

/-- How many characters there may be from a name to its colon. -/
def nameBound : Nat := 1024

/-- Gives up the tokens that can be no names any more because their line has ended
or they are too far away. -/
def dropStaleNames (scan : Scan) : Except Problem Scan :=
  let isStale (name : PossibleName) : Bool :=
    name.line != scan.cursor.line || decide (name.index + nameBound < scan.cursor.index)
  if scan.names.any fun name => name.any fun name => isStale name && name.isRequired then
    .error .malformed
  else .ok { scan with names := scan.names.map (·.filter fun name => !isStale name) }

/-- Gives up the token inside the innermost bracket that may be a name. -/
def dropName (scan : Scan) : Except Problem Scan :=
  match scan.names with
  | [] => .ok scan
  | name :: outer =>
    if name.any (·.isRequired) then .error .malformed else .ok { scan with names := none :: outer }

/-- Keeps the place of the next token if it may be a name. -/
def keepName (scan : Scan) : Except Problem Scan :=
  if !scan.allowsName then .ok scan
  else do
    let scan ← scan.dropName
    let name : PossibleName :=
      { number := scan.tokens.size
        isRequired := !scan.inBrackets && scan.indent == (scan.cursor.column : Int)
        line := scan.cursor.line
        column := scan.cursor.column
        index := scan.cursor.index }
    return { scan with names := some name :: scan.names.tail }

/-- Ends the lists and mappings that begin behind a column. Inside of brackets
columns do not count. -/
def unwind (scan : Scan) (column : Int) : Scan :=
  if scan.inBrackets then scan else go scan scan.indents
where
  /-- Ends one after the other. -/
  go (scan : Scan) : List Int → Scan
    | [] => scan
    | outer :: others =>
      if column < scan.indent then
        go { scan.push .lineEnd with indent := outer, indents := others } others
      else scan

/-- Begins a list or mapping at a column, unless one begins there or behind it. -/
def openAt (scan : Scan) (column : Nat) (number : Nat) (token : Token) : Scan :=
  if scan.indent < column then
    { scan with
      tokens := scan.tokens.insertIdxIfInBounds number token
      indents := scan.indent :: scan.indents
      indent := column }
  else scan

/-- Begins a list or mapping at the cursor, where a name must be allowed. Inside of
brackets nothing begins. -/
def openHere (scan : Scan) (token : Token) : Except Problem Scan :=
  if scan.inBrackets then .ok scan
  else if !scan.allowsName then .error .malformed
  else .ok (scan.openAt scan.cursor.column scan.tokens.size token)

/-- Reads a directive. -/
def readDirective (scan : Scan) : Except Problem Scan := do
  let scan ← (scan.unwind (-1)).dropName
  let (directive, behind) ← directive scan.cursor
  return { scan.push (.directive directive) with cursor := behind, allowsName := false }

/-- Reads a mark that begins or ends a document. -/
def readMarker (scan : Scan) (token : Token) : Except Problem Scan := do
  let scan ← (scan.unwind (-1)).dropName
  return { scan.pushMark 3 token with allowsName := false }

/-- Reads an opening bracket. What is between brackets may be a name. -/
def readOpening (scan : Scan) (token : Token) : Except Problem Scan := do
  let scan ← scan.keepName
  return { scan.pushMark 1 token with names := none :: scan.names, allowsName := true }

/-- Reads a closing bracket. -/
def readClosing (scan : Scan) (token : Token) : Except Problem Scan := do
  let scan ← scan.dropName
  match scan.names with
  | _ :: outer :: others =>
    return { scan.pushMark 1 token with names := outer :: others, allowsName := false }
  | _ => throw .malformed

/-- Reads a comma. -/
def readComma (scan : Scan) : Except Problem Scan := do
  let scan ← scan.dropName
  return { scan.pushMark 1 .comma with allowsName := true }

/-- Reads a dash. -/
def readDash (scan : Scan) : Except Problem Scan := do
  let scan ← (← scan.openHere .lineListStart).dropName
  return { scan.pushMark 1 .dash with allowsName := true }

/-- Reads the mark before a name that may have several lines. -/
def readNameMark (scan : Scan) : Except Problem Scan := do
  let scan ← (← scan.openHere .lineMappingStart).dropName
  return { scan.pushMark 1 .name with allowsName := !scan.inBrackets }

/-- Reads a colon. If a token before it may be a name it is one. -/
def readColon (scan : Scan) : Except Problem Scan := do
  match scan.names with
  | some name :: outer =>
    let named :=
      { scan with
        tokens := scan.tokens.insertIdxIfInBounds name.number .name
        names := none :: outer }
    let opened :=
      if named.inBrackets then named else named.openAt name.column name.number .lineMappingStart
    return { opened.pushMark 1 .value with allowsName := false }
  | _ =>
    let scan ← (← scan.openHere .lineMappingStart).dropName
    return { scan.pushMark 1 .value with allowsName := !scan.inBrackets }

/-- Reads an anchor or what refers to one. -/
def readAnchor (scan : Scan) (token : String → Token) : Except Problem Scan := do
  let scan ← scan.keepName
  let (name, behind) ← anchorName scan.cursor
  return { scan.push (token name) with cursor := behind, allowsName := false }

/-- Reads a tag. -/
def readTag (scan : Scan) : Except Problem Scan := do
  let scan ← scan.keepName
  let (tag, behind) ← tag scan.cursor
  return { scan.push (.tag tag) with cursor := behind, allowsName := false }

/-- Reads a block of lines. A name may follow it. -/
def readBlock (scan : Scan) (isFolded : Bool) : Except Problem Scan := do
  let scan ← scan.dropName
  let (text, behind) ← blockScalar isFolded scan.indent scan.cursor
  return { scan.push (.scalar (some text) false) with cursor := behind, allowsName := true }

/-- Reads a text between quotation marks. -/
def readQuoted (scan : Scan) (mark : Char) : Except Problem Scan := do
  let scan ← scan.keepName
  let (text, behind) ← quotedScalar mark scan.cursor
  return { scan.push (.scalar text false) with cursor := behind, allowsName := false }

/-- Reads a word. Where a line ends behind it, a name may follow. -/
def readPlain (scan : Scan) : Except Problem Scan := do
  let scan ← scan.keepName
  let (text, endsLine, behind) := plainScalar scan.inBrackets (scan.indent + 1) scan.cursor
  return { scan.push (.scalar (some text) true) with cursor := behind, allowsName := endsLine }

/-- Reads the end of the text. -/
def readEnd (scan : Scan) : Except Problem Scan := do
  let scan ← (scan.unwind (-1)).dropName
  return scan.push .textEnd

/-- Goes to the next token. A byte-order mark at the beginning of the text is passed
over, and outside of brackets a name may stand at the beginning of a line. -/
def goOn (scan : Scan) : Except Problem Scan := do
  let start := scan.cursor
  let next := (if start.index = 0 && start.isAt '\ufeff' then start.step else start).token
  let beginsLine := next.line != start.line && !scan.inBrackets
  let allowsName := scan.allowsName || beginsLine
  let scan ← { scan with cursor := next, allowsName }.dropStaleNames
  return scan.unwind next.column

/-- Reads the token at the cursor, which begins with the given character. -/
def readToken (scan : Scan) (character : Char) (rest : List Char) : Except Problem Scan :=
  let cursor := scan.cursor
  let isAlone := scan.inBrackets || endsWord rest
  if character == '%' && cursor.column = 0 then scan.readDirective
  else if cursor.isMarker "---" then scan.readMarker .documentStart
  else if cursor.isMarker "..." then scan.readMarker .documentEnd
  else if character == '[' then scan.readOpening .bracketListStart
  else if character == '\x7b' then scan.readOpening .bracketMappingStart
  else if character == ']' then scan.readClosing .bracketListEnd
  else if character == '\x7d' then scan.readClosing .bracketMappingEnd
  else if character == ',' then scan.readComma
  else if character == '-' && endsWord rest then scan.readDash
  else if character == '?' && isAlone then scan.readNameMark
  else if character == ':' && isAlone then scan.readColon
  else if character == '*' then scan.readAnchor .reference
  else if character == '&' then scan.readAnchor .anchor
  else if character == '!' then scan.readTag
  else if character == '|' && !scan.inBrackets then scan.readBlock false
  else if character == '>' && !scan.inBrackets then scan.readBlock true
  else if character == '\x27' || character == '\x22' then scan.readQuoted character
  else if beginsPlain scan.inBrackets character rest then scan.readPlain
  else .error .malformed

/-- How many tokens are certain: those before the first one that may still turn out
to be a name. -/
def certain (scan : Scan) : Nat :=
  (scan.names.filterMap id).foldl (fun least name => min least name.number) scan.tokens.size

/-- Reads the next token, or the end of the text. -/
def next (scan : Scan) : Except Problem Scan := do
  let scan ← scan.goOn
  match scan.cursor.rest with
  | [] => scan.readEnd
  | character :: rest => scan.readToken character rest

/-- Reads all tokens. The first number bounds how many there are that take room in
the text. -/
def readAll : Nat → Scan → List Token × Option Problem
  | 0, scan => (scan.tokens.toList, some .malformed)
  | fuel + 1, scan =>
    match scan.dropStaleNames with
    | .error problem => (scan.tokens.toList.take scan.certain, some problem)
    | .ok scan =>
      match scan.next with
      | .error problem => (scan.tokens.toList.take scan.certain, some problem)
      | .ok further =>
        if further.tokens.back? == some .textEnd then (further.tokens.toList, none)
        else readAll fuel further

end Scan

/-- The tokens of a text that are certain before its first problem, and that
problem. -/
def tokens (text : List Char) : List Token × Option Problem :=
  Scan.readAll (text.length + 1) { cursor := ⟨text, 0, 0, 0⟩ }

end Drafting.Yaml
