import Drafting.Number.Decimal

/-!
# Coordinate text

Coordinates are written in decimal. An integer has no point; any other value is
rounded to two places, of which trailing zeros are left out. A negative value
that rounds to zero keeps its sign.
-/

namespace Drafting.Number

/-- The two digits after the point, without trailing zeros and without the point
if nothing is left. -/
def hundredthsText (hundredths : Nat) : List Char :=
  if hundredths = 0 then []
  else if hundredths % 10 = 0 then '.' :: naturalText (hundredths / 10)
  else ['.', Nat.digitChar (hundredths / 10), Nat.digitChar (hundredths % 10)]

/-- The decimal text of a coordinate. -/
def coordinateText (value : Rat) : String :=
  if value.den = 1 then String.ofList (integerText value.num)
  else
    let hundredths := roundQuotient (100 * value.num.natAbs) value.den
    let magnitude := naturalText (hundredths / 100) ++ hundredthsText (hundredths % 100)
    String.ofList (if value.num < 0 then '-' :: magnitude else magnitude)

/-- The text of a number that may also be infinite or undefined. -/
def realText : Real64 → String
  | .finite value => coordinateText value
  | .negativeZero => coordinateText 0
  | .infinite negative => if negative then "-inf" else "inf"
  | .notANumber => "nan"

end Drafting.Number
