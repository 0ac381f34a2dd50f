import Drafting.Text.Scan

/-!
# Places in a YAML document

Lines and columns have a meaning in YAML. A cursor is the rest of a document with
the line and the column where it begins, and the number of characters before it.
Between two tokens there may be spaces, comments and line ends; a tab there is not
passed over.
-/

namespace Drafting.Yaml

/-- The characters that end a line. -/
def isLineEnd (character : Char) : Bool :=
  character == '\n' || character == '\x85' || character == '\u2028' || character == '\u2029'

/-- The characters that end a word. -/
def isGap (character : Char) : Bool :=
  character == ' ' || character == '\t' || isLineEnd character

/-- Whether a line ends before the given text. -/
def endsLine : List Char → Bool
  | [] => true
  | character :: _ => isLineEnd character

/-- Whether a word ends before the given text. -/
def endsWord : List Char → Bool
  | [] => true
  | character :: _ => isGap character

/-- Whether a word ends before the given text in a place where there are no tabs. -/
def endsPart : List Char → Bool
  | [] => true
  | character :: _ => character == ' ' || isLineEnd character

/-- The character that stands for a line end. The old control for it counts as the
usual one. -/
def lineEndText (character : Char) : Char := if character == '\x85' then '\n' else character

/-- The rest of a document and the place where it begins. -/
structure Cursor where
  rest : List Char
  line : Nat := 0
  column : Nat := 0
  index : Nat := 0
  deriving DecidableEq, Repr

namespace Cursor

/-- Passes over one character. A byte-order mark takes no room in its line. -/
def step (cursor : Cursor) : Cursor :=
  match cursor.rest with
  | [] => cursor
  | character :: rest =>
    if isLineEnd character then ⟨rest, cursor.line + 1, 0, cursor.index + 1⟩
    else if character == '\ufeff' then { cursor with rest, index := cursor.index + 1 }
    else { cursor with rest, column := cursor.column + 1, index := cursor.index + 1 }

/-- Passes over some characters. -/
def advance (cursor : Cursor) : Nat → Cursor
  | 0 => cursor
  | count + 1 => cursor.step.advance count

/-- The longest run of accepted characters, and the place behind it. -/
def run (accepts : Char → Bool) (cursor : Cursor) : List Char × Cursor :=
  let run := cursor.rest.takeWhile accepts
  (run, cursor.advance run.length)

/-- The place behind some spaces. -/
def skipSpaces (cursor : Cursor) : Cursor := (cursor.run (· == ' ')).2

/-- Whether a given character is next. -/
def isAt (character : Char) (cursor : Cursor) : Bool := cursor.rest.head? == some character

/-- The next token behind spaces, comments and line ends, where a comment may
have begun already. -/
def tokenFrom (inComment : Bool) (line column index : Nat) : List Char → Cursor
  | [] => ⟨[], line, column, index⟩
  | character :: rest =>
    if isLineEnd character then tokenFrom false (line + 1) 0 (index + 1) rest
    else if inComment then tokenFrom true line (column + 1) (index + 1) rest
    else if character == ' ' then tokenFrom false line (column + 1) (index + 1) rest
    else if character == '#' then tokenFrom true line (column + 1) (index + 1) rest
    else ⟨character :: rest, line, column, index⟩

/-- The next token. -/
def token (cursor : Cursor) : Cursor :=
  tokenFrom false cursor.line cursor.column cursor.index cursor.rest

/-- Passes over the rest of a line on which nothing stands but a comment. -/
def emptyLine? (cursor : Cursor) : Option Cursor :=
  let behind := cursor.skipSpaces
  let stop :=
    if behind.isAt '#' then (behind.run fun character => !isLineEnd character).2 else behind
  if endsLine stop.rest then some stop.step else none

/-- Whether the given mark stands alone at the beginning of a line. -/
def isMarker (mark : String) (cursor : Cursor) : Bool :=
  cursor.column == 0 && (Text.expect mark cursor.rest).any endsWord

/-- Whether a document ends here: at the end of the text, or at one of the marks
that begin and end documents. -/
def atEnd (cursor : Cursor) : Bool :=
  cursor.rest.isEmpty || cursor.isMarker "---" || cursor.isMarker "..."

end Cursor

end Drafting.Yaml
