import Drafting.Text.Hex
import Drafting.Text.Utf8
import Drafting.Yaml.Basic
import Drafting.Yaml.Cursor
import Drafting.Yaml.Token

/-!
# Anchors, tags and directives

Before a value may stand an anchor, by which other places refer to it, and a tag,
which tells its kind. Directives stand before a document, each in its own line.
-/

namespace Drafting.Yaml

/-- The characters of which anchors, handles and names of directives consist. -/
def isNameCharacter (character : Char) : Bool :=
  character.isAlphanum || character == '-' || character == '_'

/-- The characters that a tag may hold as they are. -/
def isTagCharacter (character : Char) : Bool :=
  character.isAlphanum || "-;/?:@&=+$,_.!~*\x27()[]".contains character

/-- The name of an anchor behind its mark. -/
def anchorName (cursor : Cursor) : Except Problem (String × Cursor) :=
  let (name, behind) := cursor.step.run isNameCharacter
  let ends :=
    endsWord behind.rest || behind.rest.head?.any fun next => "?:,]\x7d%@\x60".contains next
  if name.isEmpty || !ends then .error .malformed else .ok (String.ofList name, behind)

/-- The bytes of some escapes, each a percent sign and two hexadecimal digits, and
what follows them. -/
def escapedBytes? : List Char → Option (List UInt8 × List Char)
  | '%' :: high :: low :: rest => do
    let high ← Text.hexValue? high
    let low ← Text.hexValue? low
    let (bytes, behind) ← escapedBytes? rest
    return (UInt8.ofNat (16 * high + low) :: bytes, behind)
  | '%' :: _ => none
  | rest => some ([], rest)

/-- The text of a tag, of which escapes stand for the bytes of characters, and what
follows it. The first number bounds how many runs of escapes there are. -/
def tagText? : Nat → List Char → Option (List Char × List Char)
  | 0, _ => none
  | fuel + 1, text =>
    let run := text.takeWhile isTagCharacter
    match text.dropWhile isTagCharacter with
    | '%' :: rest => do
      let (bytes, behind) ← escapedBytes? ('%' :: rest)
      let escaped ← Text.ofUtf8? bytes
      let (further, last) ← tagText? fuel behind
      return (run ++ escaped.toList ++ further, last)
    | rest => some (run, rest)

/-- The text of a tag at the cursor, which must not be empty. -/
def tagSuffix (cursor : Cursor) : Except Problem (String × Cursor) :=
  match tagText? (cursor.rest.length + 1) cursor.rest with
  | none => .error .malformed
  | some (text, rest) =>
    if rest.length = cursor.rest.length then .error .malformed
    else .ok (String.ofList text, cursor.advance (cursor.rest.length - rest.length))

/-- A handle: an exclamation mark, or two with a name between them. -/
def tagHandle (cursor : Cursor) : Except Problem (String × Cursor) :=
  if !cursor.isAt '!' then .error .malformed
  else
    let (name, behind) := cursor.step.run isNameCharacter
    if behind.isAt '!' then .ok (String.ofList ('!' :: name ++ ['!']), behind.step)
    else if name.isEmpty && behind.isAt ' ' then .ok ("!", behind)
    else .error .malformed

/-- Whether a handle with two marks begins at a tag: another mark follows before a
space or the end of the line. -/
def hasNamedHandle (cursor : Cursor) : Bool :=
  let word := cursor.step.rest.takeWhile fun character => character != ' ' && !isLineEnd character
  word.contains '!'

/-- The tag at the cursor. -/
def tag (cursor : Cursor) : Except Problem (WrittenTag × Cursor) := do
  let behindMark := cursor.step
  let (tag, stop) ←
    if behindMark.isAt '<' then do
      let (suffix, behind) ← tagSuffix behindMark.step
      if behind.isAt '>' then pure (WrittenTag.mk none suffix, behind.step) else throw .malformed
    else if endsWord behindMark.rest then pure (WrittenTag.mk none "!", behindMark)
    else do
      let (handle, behind) ←
        if hasNamedHandle cursor then tagHandle cursor else pure ("!", behindMark)
      let (suffix, behind) ← tagSuffix behind
      pure (WrittenTag.mk (some handle) suffix, behind)
  if endsPart stop.rest then return (tag, stop) else throw .malformed

/-- A number in the version of the language. -/
def versionNumber (cursor : Cursor) : Except Problem (Nat × Cursor) :=
  let (digits, behind) := cursor.run Char.isDigit
  if digits.isEmpty then .error .malformed
  else if Number.digitLimit < digits.length then .error (.numeral (.tooManyDigits digits.length))
  else .ok (Number.digitsValue digits, behind)

/-- The version of the language behind the name of its directive. -/
def version (cursor : Cursor) : Except Problem (Directive × Cursor) := do
  let (major, behind) ← versionNumber cursor.skipSpaces
  if !behind.isAt '.' then throw .malformed
  let (_, behind) ← versionNumber behind.step
  if endsPart behind.rest then return (.version major, behind) else throw .malformed

/-- The handle and its prefix behind the name of their directive. -/
def handlePrefix (cursor : Cursor) : Except Problem (Directive × Cursor) := do
  let (handle, behind) ← tagHandle cursor.skipSpaces
  if !behind.isAt ' ' then throw .malformed
  let (suffix, behind) ← tagSuffix behind.skipSpaces
  if endsPart behind.rest then return (.handle handle suffix, behind) else throw .malformed

/-- The directive at the cursor, with its whole line. -/
def directive (cursor : Cursor) : Except Problem (Directive × Cursor) := do
  let (name, behind) := cursor.step.run isNameCharacter
  if name.isEmpty || !endsPart behind.rest then throw .malformed
  let (directive, stop) ←
    match String.ofList name with
    | "YAML" => version behind
    | "TAG" => handlePrefix behind
    | _ => pure (.unknown, (behind.run fun character => !isLineEnd character).2)
  match stop.emptyLine? with
  | some next => return (directive, next)
  | none => throw .malformed

end Drafting.Yaml
