import Drafting.Json.Basic
import Drafting.Number.Numeral
import Drafting.Text.Lines

/-!
# Values offered for settings

A setting may be given in more than one form: a truth value as a word or as zero
or one, an integer as a text or as a number without fraction. What cannot be
meant is refused, with a reason that depends on the form. Numbers with a point
are taken for integers only if these have fewer than sixty-four bits.
-/

namespace Drafting.Configuration

/-- Why a value or a field is refused. -/
inductive Fault where
  | unreadableBoolean
  | notBoolean
  | unreadableInteger
  | fractional
  | notFinite
  | tooLarge
  | notInteger
  | notText
  | halfText
  | notListed
  | unknownField
  | noSuchField
  | badName
  | notMapping
  deriving DecidableEq, Repr

/-- The word for a fault. -/
def Fault.text : Fault → String
  | .unreadableBoolean => "bool_parsing"
  | .notBoolean => "bool_type"
  | .unreadableInteger => "int_parsing"
  | .fractional => "int_from_float"
  | .notFinite => "finite_number"
  | .tooLarge => "int_parsing_size"
  | .notInteger => "int_type"
  | .notText => "string_type"
  | .halfText => "string_unicode"
  | .notListed => "literal_error"
  | .unknownField => "extra_forbidden"
  | .noSuchField => "no_such_attribute"
  | .badName => "invalid_key"
  | .notMapping => "model_type"

/-- A value that was offered. A text with half of a surrogate pair is refused
whatever it is offered for. Lists, mappings and whatever else a file may hold are of
no use for any field. -/
inductive Offer where
  | null
  | boolean (value : Bool)
  | integer (value : Int)
  | real (value : Number.Real64)
  | text (value : String)
  | halfText
  | other
  deriving DecidableEq, Repr

/-- A JSON value as an offer. -/
def Offer.ofJson : Json → Offer
  | .null => .null
  | .boolean value => .boolean value
  | .integer value => .integer value
  | .real value => .real value
  | .string value => .text value
  | .halfString => .halfText
  | .array _ => .other
  | .object _ => .other
  | .halfNamed => .other

/-- The words for true. -/
def trueWords : List String := ["1", "on", "t", "true", "y", "yes"]

/-- The words for false. -/
def falseWords : List String := ["0", "off", "f", "false", "n", "no"]

/-- The truth value of a word, in any case. -/
def booleanOfText (text : String) : Except Fault Bool :=
  let small := String.ofList (text.toList.map Char.toLower)
  if trueWords.contains small then .ok true
  else if falseWords.contains small then .ok false
  else .error .unreadableBoolean

/-- The magnitude that the integers of sixty-four bits do not exceed. -/
def wordBound : Int := 0x8000000000000000

/-- The truth value that an integer of sixty-four bits stands for. -/
def booleanOfInteger (value : Int) : Except Fault Bool :=
  if value = 0 then .ok false else if value = 1 then .ok true else .error .unreadableBoolean

/-- The integer that a number with a point stands for. -/
def integerOfReal (value : Number.Real64) : Except Fault Int :=
  match value.toRational? with
  | none => .error .notFinite
  | some rational =>
    if rational.den ≠ 1 then .error .fractional
    else if rational.num.natAbs < wordBound then .ok rational.num
    else .error .tooLarge

/-- The truth value that is meant. -/
def toBoolean : Offer → Except Fault Bool
  | .boolean value => .ok value
  | .integer value =>
    if -wordBound ≤ value && value < wordBound then booleanOfInteger value
    else .error .notBoolean
  | .real value =>
    match integerOfReal value with
    | .ok integer => booleanOfInteger integer
    | .error _ => .error .notBoolean
  | .text value => booleanOfText value
  | .halfText => .error .halfText
  | _ => .error .notBoolean

/-- A numeral behind a zero, from its first digit on that is none. A minus sign is
taken for such a digit, and before a point the character in front of it is kept. -/
def behindZeros? (last : Char) : List Char → Option (List Char)
  | [] => some [last]
  | character :: rest =>
    if character == '0' || character == '_' then behindZeros? character rest
    else if character.isDigit || character == '-' then some (character :: rest)
    else if character == '.' then some (last :: character :: rest)
    else none

/-- A numeral without zeros at its beginning. It must begin with a digit. -/
def withoutZeros? : List Char → Option (List Char)
  | [] => none
  | '0' :: rest => behindZeros? '0' rest
  | digit :: rest => if digit.isDigit then some (digit :: rest) else none

/-- A numeral without a fraction that is zero. -/
def withoutFraction (numeral : List Char) : List Char :=
  match numeral.dropWhile (· != '.') with
  | '.' :: zeros =>
    if !zeros.isEmpty && zeros.all (· == '0') then numeral.takeWhile (· != '.') else numeral
  | _ => numeral

/-- A numeral without its underscores, which must stand alone and at neither end. -/
def withoutUnderscores? (numeral : List Char) : Option (List Char) :=
  if (Text.split '_' numeral).any List.isEmpty then none
  else some (numeral.filter (· != '_'))

/-- What follows a minus sign at the beginning, and whether there is one. -/
def dropMinus : List Char → Bool × List Char
  | '-' :: rest => (true, rest)
  | numeral => (false, numeral)

/-- Whether a numeral begins with more digits than are read. A minus sign in front
of them counts as one, and behind a zero there are none to be counted. -/
def isTooLong (numeral : List Char) : Bool :=
  let (negative, digits) := dropMinus numeral
  let count := (digits.takeWhile Char.isDigit).length + negative.toNat
  digits.head? != some '0' && decide (Number.digitLimit < count)

/-- The integer of digits without zeros at their beginning, with a minus sign or
without a sign. -/
def integerOfDigits? (numeral : List Char) : Option Int :=
  let (negative, digits) := dropMinus numeral
  let isZeroLed := digits.head? == some '0' && decide (1 < digits.length)
  if digits.isEmpty || !digits.all Char.isDigit || isZeroLed || isTooLong numeral then none
  else
    let magnitude : Int := Number.digitsValue digits
    some (if negative then -magnitude else magnitude)

/-- The integer of a numeral. That there are too many digits is said only where the
text begins with them as they stand; otherwise it is no numeral. -/
def integerOfText (text : String) : Except Fault Int :=
  let (negative, numeral) := Number.dropSign (Number.trimSpace text.toList)
  let plain? (numeral : List Char) := withoutUnderscores? (withoutFraction numeral)
  let signed (digits : List Char) := if negative then '-' :: digits else digits
  let value? := ((withoutZeros? numeral).bind plain?).bind fun digits =>
    integerOfDigits? (signed digits)
  if isTooLong text.toList then .error .tooLarge
  else match value? with
    | some value => .ok value
    | none => .error .unreadableInteger

/-- The integer that is meant. -/
def toInteger : Offer → Except Fault Int
  | .boolean value => .ok value.toNat
  | .integer value => .ok value
  | .real value => integerOfReal value
  | .text value => integerOfText value
  | .halfText => .error .halfText
  | _ => .error .notInteger

/-- The text that is meant. -/
def toText : Offer → Except Fault String
  | .text value => .ok value
  | .halfText => .error .halfText
  | _ => .error .notText

/-- The text that is meant, where none need be given. -/
def toOptionalText : Offer → Except Fault (Option String)
  | .null => .ok none
  | .text value => .ok (some value)
  | .halfText => .error .halfText
  | _ => .error .notText

end Drafting.Configuration
