/-!
# Hexadecimal digits

Numbers in base sixteen at a fixed width, as used for the codes of characters
and for bytes.
-/

namespace Drafting.Text

/-- The digits of a number in base sixteen, the last `width` of them, in small
letters. -/
def hexDigits : Nat → Nat → List Char
  | 0, _ => []
  | width + 1, number => hexDigits width (number / 16) ++ [Nat.digitChar (number % 16)]

/-- The value of one hexadecimal digit in either case. -/
def hexValue? (digit : Char) : Option Nat :=
  if digit.isDigit then some (digit.toNat - '0'.toNat)
  else if 'a' ≤ digit && digit ≤ 'f' then some (digit.toNat - 'a'.toNat + 10)
  else if 'A' ≤ digit && digit ≤ 'F' then some (digit.toNat - 'A'.toNat + 10)
  else none

end Drafting.Text
