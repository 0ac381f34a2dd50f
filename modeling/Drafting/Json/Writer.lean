import Drafting.Json.Basic
import Drafting.Number.Shortest
import Drafting.Text.Quoted

/-!
# Writing JSON

Values are written without blanks. In strings only the quotation mark, the
backslash and the controls below U+0020 are escaped; all other characters stand
for themselves. A number with a point is written with all the digits it has. What
has no text is written as the null value.

A message that names a value shows it by a literal of its kind: a word for what is
nothing or a truth value, digits for a number, and quotation marks around a text.
The parts of what holds others are shown between brackets.
-/

namespace Drafting.Json

/-- One character of a string. -/
def stringCharacter (character : Char) : List Char :=
  match character with
  | '\x22' => ['\\', '\x22']
  | '\\' => ['\\', '\\']
  | '\n' => ['\\', 'n']
  | '\r' => ['\\', 'r']
  | '\t' => ['\\', 't']
  | '\x08' => ['\\', 'b']
  | '\x0c' => ['\\', 'f']
  | other =>
    if other.toNat < 0x20 then '\\' :: 'u' :: Text.hexDigits 4 other.toNat else [other]

/-- A string between quotation marks. -/
def stringCharacters (text : String) : List Char :=
  '\x22' :: text.toList.flatMap stringCharacter ++ ['\x22']

/-- All digits of a quotient whose denominator is a power of two: as many places
behind the point as the power has factors. -/
def exactDecimal (value : Rat) : List Char :=
  let places := value.den.log2
  let shifted := Number.naturalText (value.num.natAbs * Nat.pow 5 places)
  let padded := List.replicate (places + 1 - shifted.length) '0' ++ shifted
  let whole := padded.take (padded.length - places)
  let fraction := padded.drop (padded.length - places)
  let magnitude := whole ++ '.' :: if fraction.isEmpty then ['0'] else fraction
  if value.num < 0 then '-' :: magnitude else magnitude

/-- A number with a point, or one of the three words for numbers without digits. -/
def realCharacters : Number.Real64 → List Char
  | .finite value => exactDecimal value
  | .negativeZero => '-' :: exactDecimal 0
  | .infinite negative => (if negative then "-Infinity" else "Infinity").toList
  | .notANumber => "NaN".toList

mutual

/-- The text of a value. -/
def characters : Json → List Char
  | null => "null".toList
  | boolean value => (if value then "true" else "false").toList
  | integer value => Number.integerText value
  | real value => realCharacters value
  | string value => stringCharacters value
  | halfString => "null".toList
  | array [] => ['[', ']']
  | array (first :: others) => '[' :: characters first ++ elementCharacters others
  | object [] => ['\x7b', '\x7d']
  | object ((name, value) :: others) =>
    '\x7b' :: stringCharacters name ++ ':' :: characters value ++ memberCharacters others
  | halfNamed => "null".toList

/-- The rest of an array behind an element. -/
def elementCharacters : List Json → List Char
  | [] => [']']
  | first :: others => ',' :: characters first ++ elementCharacters others

/-- The rest of an object behind a member. -/
def memberCharacters : List (String × Json) → List Char
  | [] => ['\x7d']
  | (name, value) :: others =>
    ',' :: stringCharacters name ++ ':' :: characters value ++ memberCharacters others

end

/-- The text of a value as a string. -/
def text (value : Json) : String := String.ofList value.characters

mutual

/-- A value as it is shown in a message. -/
def shown : Json → List Char
  | null => "None".toList
  | boolean value => (if value then "True" else "False").toList
  | integer value => Number.integerText value
  | real value => (Number.shortestText value).toList
  | string value => (Text.quoted value).toList
  | halfString => (Text.quoted "").toList
  | array [] => ['[', ']']
  | array (first :: others) => '[' :: shown first ++ shownElements others
  | object [] => ['\x7b', '\x7d']
  | object ((name, value) :: others) =>
    '\x7b' :: (Text.quoted name).toList ++ ':' :: ' ' :: shown value ++ shownMembers others
  | halfNamed => ['\x7b', '\x7d']

/-- The rest of an array behind an element. -/
def shownElements : List Json → List Char
  | [] => [']']
  | first :: others => ',' :: ' ' :: shown first ++ shownElements others

/-- The rest of an object behind a member. -/
def shownMembers : List (String × Json) → List Char
  | [] => ['\x7d']
  | (name, value) :: others =>
    ',' :: ' ' :: (Text.quoted name).toList ++ ':' :: ' ' :: shown value ++ shownMembers others

end

end Drafting.Json
