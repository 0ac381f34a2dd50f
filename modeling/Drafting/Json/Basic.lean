import Drafting.Number.Decimal
import Drafting.Text.Hex

/-!
# JSON values

Values as they are exchanged in JSON texts. Integers are kept apart from numbers
with a point or an exponent, and the members of an object keep the order in which
their names came first.

A JSON text can write half of a surrogate pair, which is no character. A string
that holds one has no text, and an object has no members if one of their names
holds one.
-/

namespace Drafting

/-- A JSON value. -/
inductive Json where
  | null
  | boolean (value : Bool)
  | integer (value : Int)
  | real (value : Number.Real64)
  | string (value : String)
  | halfString
  | array (elements : List Json)
  | object (members : List (String × Json))
  | halfNamed
  deriving Inhabited, Repr

namespace Json

/-- Sets a member of an object. A name that is there already keeps its place and
gets the new value. -/
def setMember (name : String) (value : Json) : List (String × Json) → List (String × Json)
  | [] => [(name, value)]
  | (other, old) :: rest =>
    if other = name then (name, value) :: rest else (other, old) :: setMember name value rest

/-- The value of a member, if this is an object that has it. -/
def member? (name : String) : Json → Option Json
  | object members => members.lookup name
  | _ => none

end Json

end Drafting
