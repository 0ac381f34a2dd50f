import Drafting.Number.Numeral
import Drafting.Yaml.Time

/-!
# YAML values

Values as they are written in YAML documents. What the members of a mapping are
named by may be any value that holds no others.
-/

namespace Drafting.Yaml

/-- A YAML value. A text with half of a surrogate pair is kept only as such, and a
list or mapping that is written in another place of the document is only told to
be there, so that values that hold themselves are finite. -/
inductive Value where
  | null
  | boolean (value : Bool)
  | integer (value : Int)
  | real (value : Number.Real64)
  | text (value : String)
  | halfText
  | time (value : Time)
  | list (elements : List Value)
  | mapping (members : List (Value × Value))
  | elsewhere
  deriving Inhabited, Repr

namespace Value

/-- Whether a value holds others. -/
def isCollection : Value → Bool
  | .list _ => true
  | .mapping _ => true
  | .elsewhere => true
  | _ => false

/-- The value of a number. Truth values count as zero and one. -/
def rational? : Value → Option Rat
  | .boolean value => some (if value then 1 else 0)
  | .integer value => some value
  | .real value => value.toRational?
  | _ => none

/-- Whether two values name the same member. Numbers do if they are equal, however
they are written. -/
def sameName : Value → Value → Bool
  | .null, .null => true
  | .text first, .text second => first == second
  | .halfText, .halfText => true
  | .time first, .time second => first.same second
  | first, second =>
    match first.rational?, second.rational? with
    | some first, some second => first == second
    | none, none =>
      match first, second with
      | .real first, .real second => first == second
      | _, _ => false
    | _, _ => false

/-- Sets a member of a mapping. A name that is there already keeps its place and
its form and gets the new value. -/
def setMember (name value : Value) : List (Value × Value) → List (Value × Value)
  | [] => [(name, value)]
  | (other, old) :: rest =>
    if other.sameName name then (other, value) :: rest
    else (other, old) :: setMember name value rest

end Value

/-- Why a text cannot be read: it is not a document of the language, or something
in it that has the form of a value stands for none. -/
inductive Problem where
  | malformed
  | noCharacter
  | codeTooLarge
  | numeral (problem : Number.NumeralProblem)
  | time (problem : TimeProblem)
  deriving DecidableEq, Repr

/-- What is said about a problem. -/
def Problem.message : Problem → String
  | .malformed => "not a YAML document"
  | .noCharacter => "chr() arg not in range(0x110000)"
  | .codeTooLarge => "a character code has more than thirty-two bits"
  | .numeral problem => problem.message
  | .time problem => problem.message

end Drafting.Yaml
