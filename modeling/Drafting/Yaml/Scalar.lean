import Drafting.Text.Hex
import Drafting.Yaml.Basic
import Drafting.Yaml.Cursor

/-!
# Scalars in a YAML document

A scalar is a word, a text between quotation marks, or a block of lines. Words and
texts between marks may go on over several lines: one line end between two words
stands for a space, and further ones stand for themselves. Spaces around line ends
are left out.
-/

namespace Drafting.Yaml

/-- A part of a scalar: a character that is kept, half of a surrogate pair, a space
that is kept unless a line ends there, the end of a line, or an end that joins two
lines without a space. -/
inductive Piece where
  | letter (character : Char)
  | half
  | space (character : Char)
  | lineEnd (character : Char)
  | splice
  deriving DecidableEq, Repr

namespace Piece

mutual

/-- The text of some pieces, behind spaces that are kept if no line ends. -/
def joined (spaces : List Char) : List Piece → List Char
  | [] => spaces
  | letter character :: rest => spaces ++ character :: joined [] rest
  | half :: rest => spaces ++ joined [] rest
  | space character :: rest => joined (spaces ++ [character]) rest
  | lineEnd character :: rest =>
    if character == '\n' then joinedLines [' '] [] rest
    else joinedLines [character] [character] rest
  | splice :: rest => spaces ++ joinedLines [] [] rest

/-- The text of some pieces behind the end of a line. The text `alone` stands for
that end if the next line holds something, and `first` if lines without content
follow. -/
def joinedLines (alone first : List Char) : List Piece → List Char
  | [] => alone
  | letter character :: rest => alone ++ character :: joined [] rest
  | half :: rest => alone ++ joined [] rest
  | space _ :: rest => joinedLines alone first rest
  | lineEnd character :: rest => joinedLines (first ++ [character]) (first ++ [character]) rest
  | splice :: rest => alone ++ joinedLines [] [] rest

end

/-- Whether a piece is kept whatever follows. -/
def isLetter : Piece → Bool
  | letter _ => true
  | _ => false

/-- The text of some pieces without the spaces and line ends behind the last
letter. -/
def word (pieces : List Piece) : List Char :=
  joined [] ((pieces.reverse.dropWhile fun piece => !piece.isLetter).reverse)

/-- Whether a line ends behind the last letter. -/
def endsLine (pieces : List Piece) : Bool :=
  (pieces.reverse.takeWhile fun piece => !piece.isLetter).any fun piece =>
    match piece with
    | lineEnd _ => true
    | _ => false

/-- The piece for the end of a line. -/
def ofLineEnd (character : Char) : Piece := lineEnd (lineEndText character)

/-- The text between quotation marks that some pieces give, unless half of a pair is
among them. -/
def text? (pieces : List Piece) : Option String :=
  if pieces.contains half then none else some (String.ofList (joined [] pieces))

end Piece

/-- Whether a word ends at a character. In a collection between brackets its
marks also end a word. -/
def endsPlain (inBrackets : Bool) (character : Char) (rest : List Char) : Bool :=
  isGap character ||
    (character == ':' &&
      (endsWord rest || (inBrackets && rest.head?.any fun next => ",[]\x7b\x7d".contains next))) ||
    (inBrackets && ",?[]\x7b\x7d".contains character)

/-- Whether a word begins at a character. -/
def beginsPlain (inBrackets : Bool) (character : Char) (rest : List Char) : Bool :=
  if isGap character then false
  else if "?:-".contains character then
    !endsWord rest && (character == '-' || !inBrackets)
  else !",[]\x7b\x7d#&*!|>\x27\x22%@\x60".contains character

/-- The pieces of words up to where they end, and the place of the end. Lines that
go on must reach the given column, except between brackets. -/
def plainPieces (inBrackets : Bool) (least : Int) :
    Bool → Nat → Nat → Nat → List Char → List Piece × Cursor
  | _, line, column, index, [] => ([], ⟨[], line, column, index⟩)
  | behindGap, line, column, index, character :: rest =>
    let here : Cursor := ⟨character :: rest, line, column, index⟩
    if behindGap && here.atEnd then ([], here)
    else if character == ' ' then
      let (pieces, stop) := plainPieces inBrackets least true line (column + 1) (index + 1) rest
      (.space ' ' :: pieces, stop)
    else if isLineEnd character then
      let (pieces, stop) := plainPieces inBrackets least true (line + 1) 0 (index + 1) rest
      (.ofLineEnd character :: pieces, stop)
    else if behindGap && (character == '#' || (!inBrackets && decide ((column : Int) < least))) then
      ([], here)
    else if endsPlain inBrackets character rest then ([], here)
    else
      let column := if character == '\ufeff' then column else column + 1
      let (pieces, stop) := plainPieces inBrackets least false line column (index + 1) rest
      (.letter character :: pieces, stop)

/-- The word at the cursor, and whether a line ends behind it. Lines that go on must
reach the given column. -/
def plainScalar (inBrackets : Bool) (least : Int) (cursor : Cursor) : String × Bool × Cursor :=
  let (pieces, stop) :=
    plainPieces inBrackets least false cursor.line cursor.column cursor.index cursor.rest
  (String.ofList (Piece.word pieces), Piece.endsLine pieces, stop)

/-- The character that a letter behind a backslash stands for. -/
def escaped? (letter : Char) : Option Char :=
  [ ('0', '\x00'), ('a', '\x07'), ('b', '\x08'), ('t', '\t'), ('\t', '\t'), ('n', '\n'),
    ('v', '\x0b'), ('f', '\x0c'), ('r', '\r'), ('e', '\x1b'), (' ', ' '), ('\x22', '\x22'),
    ('\\', '\\'), ('/', '/'), ('N', '\x85'), ('_', '\xa0'), ('L', '\u2028'),
    ('P', '\u2029') ].lookup letter

/-- How many hexadecimal digits follow a letter behind a backslash. -/
def escapeWidth? (letter : Char) : Option Nat := [('x', 2), ('u', 4), ('U', 8)].lookup letter

/-- The piece of a character code. -/
def Piece.ofCode (code : Nat) : Except Problem Piece :=
  if 0x80000000 ≤ code then .error .codeTooLarge
  else if 0x110000 ≤ code then .error .noCharacter
  else if 0xD800 ≤ code && code ≤ 0xDFFF then .ok .half
  else .ok (.letter (Char.ofNat code))

/-- An escape behind its backslash, and how many characters it takes. -/
def escape : List Char → Except Problem (Piece × Nat)
  | [] => .error .malformed
  | letter :: rest =>
    if isLineEnd letter then .ok (.splice, 1)
    else
      match escaped? letter, escapeWidth? letter with
      | some character, _ => .ok (.letter character, 1)
      | none, none => .error .malformed
      | none, some width =>
        match (rest.take width).mapM Text.hexValue? with
        | none => .error .malformed
        | some digits =>
          if digits.length < width then .error .malformed
          else (Piece.ofCode (Number.digitsValueIn 16 digits)).map (·, width + 1)

/-- The pieces of a text between quotation marks and how many characters it takes
with its closing mark. The first `skipped` characters belong to a piece that was
read already. A line must not begin with the mark of a document. -/
def quotedPieces (mark : Char) (atLineStart : Bool) :
    Nat → List Char → Except Problem (List Piece × Nat)
  | _, [] => .error .malformed
  | skipped + 1, character :: rest => do
    let (pieces, count) ← quotedPieces mark (isLineEnd character) skipped rest
    return (pieces, count + 1)
  | 0, character :: rest =>
    if atLineStart && (Cursor.mk (character :: rest) 0 0 0).atEnd then .error .malformed
    else
      let further (skipped : Nat) (piece : Piece) : Except Problem (List Piece × Nat) := do
        let (pieces, count) ← quotedPieces mark (isLineEnd character) skipped rest
        return (piece :: pieces, count + 1)
      if isLineEnd character then further 0 (.ofLineEnd character)
      else if isGap character then further 0 (.space character)
      else if character == mark then
        if mark == '\x27' && rest.head? == some mark then further 1 (.letter mark)
        else .ok ([], 1)
      else if character == '\\' && mark == '\x22' then
        match escape rest with
        | .ok (piece, count) => further count piece
        | .error problem => .error problem
      else further 0 (.letter character)

/-- The text between quotation marks at the cursor. -/
def quotedScalar (mark : Char) (cursor : Cursor) : Except Problem (Option String × Cursor) := do
  let (pieces, count) ← quotedPieces mark false 0 cursor.rest.tail
  return (Piece.text? pieces, cursor.advance (count + 1))

/-- What becomes of the line ends at the end of a block: one is kept, all are, or
none is. -/
inductive Tail where
  | one
  | all
  | none
  deriving DecidableEq, Repr

/-- The two signs for the end of a block. -/
def Tail.ofSign? (sign : Char) : Option Tail := [('+', Tail.all), ('-', Tail.none)].lookup sign

/-- The marks behind the one that opens a block: how it ends, and by how much its
lines are indented, in either order. -/
def blockMarks? (text : List Char) : Option (Tail × Option Nat × Nat) :=
  let indent? (digit : Char) : Option Nat :=
    if digit.isDigit && digit != '0' then some (digit.toNat - '0'.toNat) else none
  match text with
  | first :: second :: _ =>
    match Tail.ofSign? first, Tail.ofSign? second with
    | some tail, _ =>
      if second.isDigit then (indent? second).map (tail, some ·, 2) else some (tail, none, 1)
    | none, some tail =>
      if first.isDigit then (indent? first).map (tail, some ·, 2) else some (.one, none, 0)
    | none, none =>
      if first.isDigit then (indent? first).map (.one, some ·, 1) else some (.one, none, 0)
  | [only] =>
    match Tail.ofSign? only with
    | some tail => some (tail, none, 1)
    | none => if only.isDigit then (indent? only).map (.one, some ·, 1) else some (.one, none, 0)
  | [] => some (.one, none, 0)

/-- The line ends up to the next line with content, and its place. Up to `indent`
spaces are passed over in each line, or any number if no indent is given. -/
def blockBreaks (indent : Option Nat) (line column index : Nat) : List Char → List Char × Cursor
  | [] => ([], ⟨[], line, column, index⟩)
  | character :: rest =>
    if character == ' ' && indent.all (column < ·) then
      blockBreaks indent line (column + 1) (index + 1) rest
    else if isLineEnd character then
      let (breaks, stop) := blockBreaks indent (line + 1) 0 (index + 1) rest
      (lineEndText character :: breaks, stop)
    else ([], ⟨character :: rest, line, column, index⟩)

/-- The greatest number of spaces at the beginning of the lines up to the next one
with content. -/
def greatestIndent (column greatest : Nat) : List Char → Nat
  | [] => greatest
  | character :: rest =>
    if character == ' ' then greatestIndent (column + 1) (max greatest (column + 1)) rest
    else if isLineEnd character then greatestIndent 0 greatest rest
    else greatest

/-- Whether a line of a block begins with white space, or there is no line. -/
def isIndentedMore (cursor : Cursor) : Bool := cursor.isAt ' ' || cursor.isAt '\t'

/-- The text of a block from a line with content on, and the place behind it. Line
ends between two lines that are not indented further become spaces if the block is
folded. The first number bounds how many lines there are. -/
def blockLines (isFolded : Bool) (tail : Tail) (indent : Nat) :
    Nat → List Char → Cursor → List Char × Cursor
  | 0, _, cursor => ([], cursor)
  | fuel + 1, breaks, cursor =>
    let (content, stop) := cursor.run fun character => !isLineEnd character
    let lineEnd := (stop.rest.take 1).map lineEndText
    let behind := stop.step
    let (nextBreaks, next) :=
      blockBreaks (some indent) behind.line behind.column behind.index behind.rest
    let start := breaks ++ content
    if next.column = indent && !next.rest.isEmpty then
      let isJoined :=
        isFolded && lineEnd == ['\n'] && !isIndentedMore cursor && !isIndentedMore next
      let joint := if isJoined then if nextBreaks.isEmpty then [' '] else [] else lineEnd
      let (text, last) := blockLines isFolded tail indent fuel nextBreaks next
      (start ++ joint ++ text, last)
    else
      let kept :=
        match tail with
        | .one => lineEnd
        | .all => lineEnd ++ nextBreaks
        | .none => []
      (start ++ kept, next)

/-- The block of lines whose opening mark is at the cursor, in a place with the
given indent. -/
def blockScalar (isFolded : Bool) (indent : Int) (cursor : Cursor) :
    Except Problem (String × Cursor) :=
  match blockMarks? cursor.rest.tail with
  | none => .error .malformed
  | some (tail, increment, count) =>
    let behindMarks := cursor.advance (count + 1)
    match if endsPart behindMarks.rest then behindMarks.emptyLine? else none with
    | none => .error .malformed
    | some start =>
      let least := max 1 (indent + 1).toNat
      let indent :=
        match increment with
        | some increment => least + increment - 1
        | none => max least (greatestIndent start.column 0 start.rest)
      let (breaks, first) :=
        blockBreaks (increment.map fun _ => indent) start.line start.column start.index start.rest
      if first.column = indent && !first.rest.isEmpty then
        let (text, last) :=
          blockLines isFolded tail indent (first.rest.length + 1) breaks first
        .ok (String.ofList text, last)
      else .ok (String.ofList (if tail = .all then breaks else []), first)

end Drafting.Yaml
