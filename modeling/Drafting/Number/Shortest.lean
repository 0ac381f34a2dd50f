import Drafting.Number.Decimal

/-!
# Shortest text of a number

A number with a binary significand is shown by the fewest decimal digits that
stand for it and for no other such number. Of several choices with so few digits
the nearest is shown. The digits are looked for on finer and finer grids of
decimal numbers: on each of them only the two neighbours of the number can do.
-/

namespace Drafting.Number

/-- Digits and a power of ten: `digits * 10 ^ exponent`. -/
structure Scientific where
  digits : Nat
  exponent : Int
  deriving DecidableEq, Repr

namespace Scientific

/-- Ten to an integral power. -/
def powerOfTen (exponent : Int) : Rat :=
  if 0 ≤ exponent then (Nat.pow 10 exponent.toNat : Nat)
  else 1 / (Nat.pow 10 (-exponent).toNat : Nat)

/-- Whether some digits stand for a given positive number. -/
def standsFor (number : Rat) (decimal : Scientific) : Bool :=
  Real64.ofScientific false decimal.digits decimal.exponent == .finite number

/-- The least power of ten above a positive number, found from below. The first
number bounds the search. -/
def scaleFrom (number : Rat) : Nat → Int → Int
  | 0, exponent => exponent
  | steps + 1, exponent =>
    if number < powerOfTen exponent then exponent else scaleFrom number steps (exponent + 1)

/-- The exponent of the least power of ten above a positive number. The digits of
its two parts give it up to one step. -/
def scale (number : Rat) : Int :=
  let above : Int := (naturalText number.num.natAbs).length
  let below : Int := (naturalText number.den).length
  scaleFrom number 3 (above - below - 1)

/-- The two neighbours of a number among the multiples of a power of ten, the
nearer one first and the even one of two that are equally near. -/
def neighbours (number : Rat) (exponent : Int) : List Scientific :=
  let scaled := number / powerOfTen exponent
  let lower := scaled.floor.toNat
  let twice := 2 * (scaled - lower)
  if twice < 1 || (twice == 1 && lower % 2 == 0) then [⟨lower, exponent⟩, ⟨lower + 1, exponent⟩]
  else [⟨lower + 1, exponent⟩, ⟨lower, exponent⟩]

/-- The first choice with a given number of digits that stands for a number. -/
def choice? (number : Rat) (scale : Int) (count : Nat) : Option Scientific :=
  (neighbours number (scale - count)).find? (standsFor number)

/-- Digits without zeros at their end. The first number bounds how many zeros
there are. -/
def withoutZeros : Nat → Scientific → Scientific
  | 0, decimal => decimal
  | steps + 1, decimal =>
    if decimal.digits ≠ 0 ∧ decimal.digits % 10 = 0 then
      withoutZeros steps ⟨decimal.digits / 10, decimal.exponent + 1⟩
    else decimal

/-- The digits of a quotient whose denominator is a power of two. -/
def exact (number : Rat) : Scientific :=
  let places := number.den.log2
  ⟨number.num.natAbs * Nat.pow 5 places, -places⟩

/-- How many digits are tried. So many tell all numbers apart. -/
def digitBound : Nat := 17

/-- The shortest choice of digits for a positive number. -/
def ofPositive (number : Rat) : Scientific :=
  let scale := scale number
  let found := (List.range digitBound).findSome? fun count => choice? number scale (count + 1)
  withoutZeros digitBound (found.getD (exact number))

end Scientific

/-- The least exponent of the leading digit that is written without a power of
ten. -/
def leastPlainExponent : Int := -4

/-- The least exponent of the leading digit that is too large to be written
without a power of ten. -/
def plainExponentBound : Int := 16

/-- A power of ten behind digits, with its sign and at least two digits. -/
def exponentText (exponent : Int) : List Char :=
  let digits := naturalText exponent.natAbs
  'e' :: (if exponent < 0 then '-' else '+') :: (List.replicate (2 - digits.length) '0' ++ digits)

/-- Digits as they are written: with a point, or with a power of ten behind the
first digit. -/
def Scientific.text (decimal : Scientific) : List Char :=
  let digits := naturalText decimal.digits
  let leading : Int := decimal.exponent + digits.length - 1
  if leading < leastPlainExponent || plainExponentBound ≤ leading then
    let fraction := digits.drop 1
    digits.take 1 ++ (if fraction.isEmpty then [] else '.' :: fraction) ++ exponentText leading
  else if 0 ≤ decimal.exponent then
    digits ++ List.replicate decimal.exponent.toNat '0' ++ ['.', '0']
  else if leading < 0 then
    '0' :: '.' :: (List.replicate (-leading - 1).toNat '0' ++ digits)
  else digits.take (leading + 1).toNat ++ '.' :: digits.drop (leading + 1).toNat

/-- The shortest text of a number. -/
def shortestText : Real64 → String
  | .finite value =>
    let magnitude :=
      if value = 0 then ['0', '.', '0']
      else (Scientific.ofPositive (if value < 0 then -value else value)).text
    String.ofList (if value < 0 then '-' :: magnitude else magnitude)
  | .negativeZero => "-0.0"
  | .infinite negative => if negative then "-inf" else "inf"
  | .notANumber => "nan"

end Drafting.Number
