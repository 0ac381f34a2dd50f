import Drafting.Json.Basic

/-!
# Reading JSON

The reader follows the grammar of JSON texts, with three words more for numbers
without digits. Of two members with one name the last counts. An error tells
what was expected and where; the first place that cannot be read decides.
-/

namespace Drafting.Json

/-- What can be wrong with a text. -/
inductive Problem where
  | valueExpected
  | nameExpected
  | colonExpected
  | commaExpected
  | extraData
  | unterminatedString
  | controlCharacter
  | unknownEscape
  | unreadableEscape
  | byteOrderMark
  | tooManyDigits (count : Nat)
  deriving DecidableEq, Repr

/-- The words for a problem. -/
def Problem.text : Problem → String
  | valueExpected => "Expecting value"
  | nameExpected => "Expecting property name enclosed in double quotes"
  | colonExpected => "Expecting ':' delimiter"
  | commaExpected => "Expecting ',' delimiter"
  | extraData => "Extra data"
  | unterminatedString => "Unterminated string starting at"
  | controlCharacter => "Invalid control character at"
  | unknownEscape => "Invalid \\escape"
  | unreadableEscape => "Invalid \\uXXXX escape"
  | byteOrderMark => "Unexpected UTF-8 BOM (decode using utf-8-sig)"
  | tooManyDigits count => Number.tooManyDigitsMessage count

/-- A problem and how many characters are left where it was found. -/
structure Failure where
  problem : Problem
  left : Nat
  deriving DecidableEq, Repr

/-- A problem with the part of the text before it. -/
structure SyntaxError where
  problem : Problem
  before : List Char
  deriving DecidableEq, Repr

/-- The message of an error gives the line, the column in it, and the position in
the whole text. -/
def SyntaxError.message (error : SyntaxError) : String :=
  let line := error.before.count '\n' + 1
  let column := (error.before.reverse.takeWhile (· != '\n')).length + 1
  String.ofList (error.problem.text.toList ++ ": line ".toList ++ Number.naturalText line ++
    " column ".toList ++ Number.naturalText column ++ " (char ".toList ++
    Number.naturalText error.before.length ++ [')'])

/-- The blanks between the tokens of a text. -/
def isBlank (character : Char) : Bool :=
  character == ' ' || character == '\t' || character == '\n' || character == '\r'

/-- The text from its first token on. -/
def dropBlanks (text : List Char) : List Char := text.dropWhile isBlank

/-- The number given by four hexadecimal digits. -/
def codeUnit? (first second third fourth : Char) : Option Nat := do
  let first ← Text.hexValue? first
  let second ← Text.hexValue? second
  let third ← Text.hexValue? third
  let fourth ← Text.hexValue? fourth
  return ((first * 16 + second) * 16 + third) * 16 + fourth

/-- The character of a code unit, unless it is half of a pair. -/
def characterOfUnit? (unit : Nat) : Option Char :=
  if 0xD800 ≤ unit && unit ≤ 0xDFFF then none else some (Char.ofNat unit)

/-- The second half of a pair at the beginning of the text. -/
def lowHalf? : List Char → Option Nat
  | '\\' :: 'u' :: first :: second :: third :: fourth :: _ :: _ => do
    let unit ← codeUnit? first second third fourth
    if 0xDC00 ≤ unit && unit ≤ 0xDFFF then some unit else none
  | _ => none

/-- The character that a letter behind a backslash stands for. -/
def escaped? (letter : Char) : Option Char :=
  match letter with
  | '\x22' => some '\x22'
  | '\\' => some '\\'
  | '/' => some '/'
  | 'b' => some '\x08'
  | 'f' => some '\x0c'
  | 'n' => some '\n'
  | 'r' => some '\r'
  | 't' => some '\t'
  | _ => none

/-- The text of a string and what follows it, behind the opening mark, of which
`opening` characters were left. The last characters that were read come first in
`read`, unless half of a pair was among them. The first `skipped` characters
belong to an escape that was read already. -/
def readString (opening : Nat) :
    Nat → Option (List Char) → List Char → Except Failure (Option String × List Char)
  | _, _, [] => .error ⟨.unterminatedString, opening⟩
  | skipped + 1, read, _ :: rest => readString opening skipped read rest
  | 0, read, character :: rest =>
    let behind (next : Char) : Option (List Char) := read.map (next :: ·)
    if character == '\x22' then .ok (read.map fun read => String.ofList read.reverse, rest)
    else if character == '\\' then
      match rest with
      | [] => .error ⟨.unterminatedString, opening⟩
      | 'u' :: first :: second :: third :: fourth :: next :: others =>
        match codeUnit? first second third fourth with
        | none => .error ⟨.unreadableEscape, rest.length⟩
        | some unit =>
          match if 0xD800 ≤ unit && unit ≤ 0xDBFF then lowHalf? (next :: others) else none with
          | some low =>
            let code := 0x10000 + (unit - 0xD800) * 0x400 + (low - 0xDC00)
            readString opening 11 (behind (Char.ofNat code)) rest
          | none => readString opening 5 ((characterOfUnit? unit).bind behind) rest
      | 'u' :: _ => .error ⟨.unreadableEscape, rest.length⟩
      | letter :: _ =>
        match escaped? letter with
        | some character => readString opening 1 (behind character) rest
        | none => .error ⟨.unknownEscape, rest.length + 1⟩
    else if character.toNat < 0x20 then .error ⟨.controlCharacter, rest.length + 1⟩
    else readString opening 0 (behind character) rest

/-- The digits behind a point, if there is at least one. -/
def fraction? (text : List Char) : Option (List Char × List Char) :=
  match text with
  | '.' :: rest =>
    let digits := rest.takeWhile Char.isDigit
    if digits.isEmpty then none else some (digits, rest.dropWhile Char.isDigit)
  | _ => none

/-- The exponent behind its letter, if there is at least one digit. -/
def exponent? (text : List Char) : Option (Int × List Char) :=
  match text with
  | mark :: rest =>
    let (below, signless) := Number.dropSign rest
    let digits := signless.takeWhile Char.isDigit
    if (mark == 'e' || mark == 'E') && !digits.isEmpty then
      let power : Int := Number.digitsValue digits
      some (if below then -power else power, signless.dropWhile Char.isDigit)
    else none
  | [] => none

/-- A number behind its sign: an integer, unless a fraction or an exponent
follows. The digits before the point have no leading zero. -/
def number (negative : Bool) (text : List Char) : Except Problem (Json × List Char) :=
  let digits :=
    match text with
    | '0' :: _ => ['0']
    | _ => text.takeWhile Char.isDigit
  if digits.isEmpty then .error .valueExpected
  else
    let behind := text.drop digits.length
    let fraction := fraction? behind
    let (places, afterFraction) := fraction.getD ([], behind)
    let exponent := exponent? afterFraction
    let (power, rest) := exponent.getD (0, afterFraction)
    let significand := Number.digitsValue (digits ++ places)
    if fraction.isSome || exponent.isSome then
      .ok (.real (Number.Real64.ofScientific negative significand (power - places.length)), rest)
    else if Number.digitLimit < digits.length then .error (.tooManyDigits digits.length)
    else
      let value : Int := significand
      .ok (.integer (if negative then -value else value), rest)

/-- The words that stand for values. -/
def words : List (String × Json) :=
  [ ("null", .null), ("true", .boolean true), ("false", .boolean false),
    ("NaN", .real .notANumber), ("Infinity", .real (.infinite false)),
    ("-Infinity", .real (.infinite true)) ]

/-- The value of a word at the beginning of the text. -/
def word? (text : List Char) : Option (Json × List Char) :=
  words.findSome? fun (word, value) => (word.toList.isPrefixOf? text).map (value, ·)

/-- A value that holds no others, at the beginning of the text. -/
def simple (text : List Char) : Except Problem (Json × List Char) :=
  match word? text with
  | some found => .ok found
  | none =>
    match text with
    | '-' :: rest => number true rest
    | rest => number false rest

mutual

/-- The value at the beginning of the text and what follows it. The first number
bounds the number of steps, of which two suffice for each character. -/
def readValue : Nat → List Char → Except Failure (Json × List Char)
  | 0, text => .error ⟨.valueExpected, text.length⟩
  | fuel + 1, text =>
    match text with
    | '\x22' :: rest =>
      match readString text.length 0 (some []) rest with
      | .ok (some read, rest) => .ok (.string read, rest)
      | .ok (none, rest) => .ok (.halfString, rest)
      | .error failure => .error failure
    | '[' :: rest =>
      match dropBlanks rest with
      | ']' :: rest => .ok (.array [], rest)
      | rest => readElements fuel [] rest
    | '\x7b' :: rest =>
      match dropBlanks rest with
      | '\x7d' :: rest => .ok (.object [], rest)
      | rest => readMembers fuel (some []) rest
    | _ =>
      match simple text with
      | .ok found => .ok found
      | .error problem => .error ⟨problem, text.length⟩

/-- The elements of an array up to its closing bracket, behind those already
read. -/
def readElements : Nat → List Json → List Char → Except Failure (Json × List Char)
  | 0, _, text => .error ⟨.valueExpected, text.length⟩
  | fuel + 1, elements, text =>
    match readValue fuel text with
    | .error failure => .error failure
    | .ok (value, rest) =>
      match dropBlanks rest with
      | ']' :: rest => .ok (.array (elements ++ [value]), rest)
      | ',' :: rest => readElements fuel (elements ++ [value]) (dropBlanks rest)
      | rest => .error ⟨.commaExpected, rest.length⟩

/-- The members of an object up to its closing brace, behind those already read,
unless one of their names holds half of a pair. -/
def readMembers :
    Nat → Option (List (String × Json)) → List Char → Except Failure (Json × List Char)
  | 0, _, text => .error ⟨.valueExpected, text.length⟩
  | fuel + 1, members, text =>
    match text with
    | '\x22' :: inner =>
      match readString text.length 0 (some []) inner with
      | .error failure => .error failure
      | .ok (name, rest) =>
        match dropBlanks rest with
        | ':' :: rest =>
          match readValue fuel (dropBlanks rest) with
          | .error failure => .error failure
          | .ok (value, rest) =>
            let members := name.bind fun name => members.map (setMember name value)
            match dropBlanks rest with
            | '\x7d' :: rest => .ok ((members.map Json.object).getD .halfNamed, rest)
            | ',' :: rest => readMembers fuel members (dropBlanks rest)
            | rest => .error ⟨.commaExpected, rest.length⟩
        | rest => .error ⟨.colonExpected, rest.length⟩
    | rest => .error ⟨.nameExpected, rest.length⟩

end

/-- Reads a whole text. -/
def readAll (text : List Char) : Except Failure Json :=
  match text with
  | '\ufeff' :: _ => .error ⟨.byteOrderMark, text.length⟩
  | _ =>
    match readValue (2 * text.length + 2) (dropBlanks text) with
    | .error failure => .error failure
    | .ok (value, rest) =>
      match dropBlanks rest with
      | [] => .ok value
      | rest => .error ⟨.extraData, rest.length⟩

/-- Why there is no value: the text is none of the language, or it holds an integer
with too many digits. -/
inductive ReadError where
  | malformed (error : SyntaxError)
  | tooManyDigits (count : Nat)
  deriving DecidableEq, Repr

/-- The message of an error. -/
def ReadError.message : ReadError → String
  | .malformed error => error.message
  | .tooManyDigits count => Number.tooManyDigitsMessage count

/-- Reads a JSON text. -/
def ofText (text : String) : Except ReadError Json :=
  match readAll text.toList with
  | .ok value => .ok value
  | .error ⟨.tooManyDigits count, _⟩ => .error (.tooManyDigits count)
  | .error failure =>
    .error (.malformed ⟨failure.problem, text.toList.take (text.toList.length - failure.left)⟩)

end Drafting.Json
