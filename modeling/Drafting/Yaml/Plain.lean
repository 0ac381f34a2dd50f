import Drafting.Text.Lines
import Drafting.Yaml.Node

/-!
# Plain words

A word without quotation marks stands for nothing, for a truth value, a number or
a time if it has the form of one, and for itself otherwise. Numbers may have
underscores between their digits, and groups of sixty behind colons. A number
with a point has an exponent only if the exponent has a sign.

The form decides what a word is a word for, and only then is its value computed,
which can still fail.
-/

namespace Drafting.Yaml.Plain

/-- The words for nothing. -/
def nullWords : List String := ["", "~", "null", "Null", "NULL"]

/-- The words for true. -/
def trueWords : List String :=
  ["yes", "Yes", "YES", "true", "True", "TRUE", "on", "On", "ON"]

/-- The words for false. -/
def falseWords : List String :=
  ["no", "No", "NO", "false", "False", "FALSE", "off", "Off", "OFF"]

/-- The words for infinity. -/
def infinityWords : List String := [".inf", ".Inf", ".INF"]

/-- The words for what is not a number. -/
def undefinedWords : List String := [".nan", ".NaN", ".NAN"]

/-- A digit or an underscore between digits. -/
def isDigitOrLine (character : Char) : Bool := character.isDigit || character == '_'

/-- Whether there are digits of a base, or underscores between them. -/
def areDigits (base : Nat) (digits : List Char) : Bool :=
  !digits.isEmpty && digits.all fun digit =>
    digit == '_' || (Number.digitIn? base digit).isSome

/-- Whether a word is a group of at most fifty-nine. -/
def isGroup : List Char → Bool
  | [digit] => digit.isDigit
  | [tens, digit] => '0' ≤ tens && tens ≤ '5' && digit.isDigit
  | _ => false

/-- Whether some digits may have groups of sixty behind them, and if so have
groups only. -/
def areGroups (numeral : List Char) : Bool :=
  match Text.split ':' numeral with
  | [] => false
  | first :: groups =>
    first.head?.any Char.isDigit && first.all isDigitOrLine && groups.all isGroup

/-- Whether a word without a sign has the form of an integer. -/
def isMagnitude : List Char → Bool
  | ['0'] => true
  | '0' :: 'b' :: digits => areDigits 2 digits
  | '0' :: 'x' :: digits => areDigits 16 digits
  | '0' :: digits => areDigits 8 digits
  | numeral => areGroups numeral

/-- Whether a word has the form of an integer. -/
def isInteger (word : List Char) : Bool := isMagnitude (Number.dropSign word).2

/-- Whether a word has the form of an exponent behind a number with a point, or is
empty. -/
def isExponent : List Char → Bool
  | [] => true
  | mark :: sign :: digits =>
    (mark == 'e' || mark == 'E') && (sign == '+' || sign == '-') && !digits.isEmpty &&
      digits.all Char.isDigit
  | _ => false

/-- Whether a word has the form of a number with a point. Without digits before the
point there must be one directly behind it, and no sign before it; behind groups
there is no exponent. -/
def isPointed (word : List Char) : Bool :=
  let numeral := (Number.dropSign word).2
  let whole := numeral.takeWhile (· != '.')
  match numeral.dropWhile (· != '.') with
  | [] => false
  | _ :: behind =>
    let exponent := behind.dropWhile isDigitOrLine
    if whole.isEmpty then
      numeral.length = word.length && behind.head?.any Char.isDigit && isExponent exponent
    else areGroups whole && if whole.contains ':' then exponent.isEmpty else isExponent exponent

/-- Whether a word has the form of a number with a point, or is a word for one. -/
def isReal (word : List Char) : Bool :=
  infinityWords.contains (String.ofList (Number.dropSign word).2) ||
    undefinedWords.contains (String.ofList word) || isPointed word

/-- What a word without quotation marks is a word for. -/
def tag (word : List Char) : Tag :=
  let text := String.ofList word
  if nullWords.contains text then .null
  else if trueWords.contains text || falseWords.contains text then .boolean
  else if isReal word then .real
  else if isInteger word then .integer
  else if (writtenTime? 2 word).isSome then .time
  else if text == "<<" then .merge
  else if text == "=" then .equals
  else .text

/-- A number, or the problem with its text. -/
def ofNumeral {α : Type} : Except Number.NumeralProblem α → Except Problem α
  | .ok value => .ok value
  | .error problem => .error (.numeral problem)

/-- The value of digits of a base. -/
def digitsIn (base : Nat) (digits : List Char) : Except Problem Int :=
  ofNumeral (Number.integerIn base (String.ofList digits))

/-- The value of an integer without its sign and without underscores. -/
def magnitude (numeral : List Char) : Except Problem Int :=
  match numeral with
  | ['0'] => .ok 0
  | '0' :: 'b' :: digits => digitsIn 2 digits
  | '0' :: 'x' :: digits => digitsIn 16 digits
  | '0' :: _ => digitsIn 8 numeral
  | _ => do
    let groups ← (Text.split ':' numeral).mapM (digitsIn 10)
    return groups.foldl (fun value group => 60 * value + group) 0

/-- The value of an integer. -/
def integer (word : List Char) : Except Problem Int :=
  let (negative, numeral) := Number.dropSign (word.filter (· != '_'))
  (magnitude numeral).map fun magnitude => if negative then -magnitude else magnitude

/-- The value of groups of sixty, the last one first, of which each product and each
sum is rounded. A value that is too large is none. -/
def groupsValue? (sum unit : Rat) : List Rat → Option Rat
  | [] => some sum
  | group :: groups => do
    let product ← Number.Real64.nearest? (group * (← Number.Real64.nearest? unit))
    groupsValue? (← Number.Real64.nearest? (sum + product)) (60 * unit) groups

/-- The value of groups of sixty with a sign. -/
def groupedReal (negative : Bool) (groups : List Number.Real64) : Number.Real64 :=
  match (groups.reverse.mapM Number.Real64.toRational?).bind (groupsValue? 0 1) with
  | some value => .ofRational negative (if negative then -value else value)
  | none => .infinite negative

/-- The number with a point that a text stands for. -/
def realOf (text : List Char) : Except Problem Number.Real64 :=
  ofNumeral (Number.realOf (String.ofList text))

/-- The value of a number with a point, or of a word for one. -/
def real (word : List Char) : Except Problem Number.Real64 :=
  let small := (word.filter (· != '_')).map Char.toLower
  let (negative, numeral) := Number.dropSign small
  if String.ofList numeral == ".inf" then .ok (.infinite negative)
  else if String.ofList numeral == ".nan" then .ok .notANumber
  else if numeral.contains ':' then
    ((Text.split ':' numeral).mapM realOf).map (groupedReal negative)
  else (realOf numeral).map fun value => if negative then value.negated else value

end Drafting.Yaml.Plain
