import Drafting.Json.Basic

/-!
# Members of JSON objects

Members of an object by name and kind. Where a member is absent or of another
kind, a default takes its place.
-/

namespace Drafting.Json

/-- The value of a member; an absent one is the null value. -/
def field (name : String) (value : Json) : Json := (value.member? name).getD null

/-- The text of a string. -/
def text? : Json → Option String
  | string value => some value
  | _ => none

/-- The value of an integer. Truth values count as zero and one, and a number
without fraction counts whatever its form. -/
def integer? : Json → Option Int
  | integer value => some value
  | boolean value => some (if value then 1 else 0)
  | real value => value.toInteger?
  | _ => none

/-- The value of a number. Truth values count as zero and one, and what is no finite
number as zero. -/
def rational : Json → Rat
  | integer value => value
  | boolean value => if value then 1 else 0
  | real value => value.toRational?.getD 0
  | _ => 0

/-- The elements of an array. -/
def elements : Json → List Json
  | array elements => elements
  | _ => []

/-- The text of a member, if it is a string. -/
def textAt? (name : String) (value : Json) : Option String := (value.field name).text?

/-- The text of a member. -/
def textAt (name : String) (value : Json) (default : String := "") : String :=
  (value.textAt? name).getD default

/-- The value of a member, if it is an integer. -/
def integerAt? (name : String) (value : Json) : Option Int := (value.field name).integer?

/-- The value of an integral member. -/
def integerAt (name : String) (value : Json) (default : Int := 0) : Int :=
  (value.integerAt? name).getD default

/-- Whether a value counts as true. What is nothing, zero or empty does not. -/
def isTrue : Json → Bool
  | null => false
  | boolean value => value
  | integer value => value != 0
  | real value => value.toRational? != some 0
  | string value => !value.isEmpty
  | array elements => !elements.isEmpty
  | object members => !members.isEmpty
  | _ => true

/-- Whether a member counts as true, if it is there and not the null value. -/
def booleanAt? (name : String) (value : Json) : Option Bool :=
  match value.field name with
  | null => none
  | given => some given.isTrue

/-- Whether a member counts as true; an absent one does not. -/
def booleanAt (name : String) (value : Json) : Bool := (value.field name).isTrue

/-- The elements of a member. -/
def elementsAt (name : String) (value : Json) : List Json := (value.field name).elements

/-- The texts in a member. -/
def textsAt (name : String) (value : Json) : List String :=
  (value.elementsAt name).filterMap text?

/-- A value that may be absent. -/
def ofOption {α : Type} (encode : α → Json) : Option α → Json
  | some value => encode value
  | none => null

/-- An array of encoded values. -/
def ofList {α : Type} (encode : α → Json) (values : List α) : Json := array (values.map encode)

end Drafting.Json
