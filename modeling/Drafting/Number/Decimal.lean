/-!
# Decimal numbers

Decimal text for integers, and the number that a decimal text stands for. A
text with a point or an exponent stands for the nearest number that has a
binary significand of 53 bits and an exponent of 11, which is how programs that
exchange such texts hold them; a text too large for that stands for infinity.
Integers have no bound, but those with very many digits are not read.

A quotient of natural numbers is rounded to the nearest integer; one that lies in
the middle of two goes to the even one. The main statements are that the result is
at most half a unit away, and that it is zero exactly for quotients up to one half.
-/

namespace Drafting.Number

/-- The integer nearest to `numerator / denominator`, the even one of two that
are equally near. -/
def roundQuotient (numerator denominator : Nat) : Nat :=
  let quotient := numerator / denominator
  let remainder := numerator % denominator
  if denominator < 2 * remainder || (2 * remainder == denominator && quotient % 2 == 1) then
    quotient + 1
  else quotient

/-- Rounding moves a quotient by half a unit at most. -/
theorem roundQuotient_within_half (numerator denominator : Nat) (positive : 0 < denominator) :
    2 * (roundQuotient numerator denominator * denominator) ≤ 2 * numerator + denominator ∧
      2 * numerator ≤ 2 * (roundQuotient numerator denominator * denominator) + denominator := by
  have division := Nat.div_add_mod numerator denominator
  have bound := Nat.mod_lt numerator positive
  rw [Nat.mul_comm] at division
  simp only [roundQuotient]
  split
  · next up =>
    simp only [Bool.or_eq_true, decide_eq_true_eq, Bool.and_eq_true, beq_iff_eq] at up
    rw [Nat.add_mul, Nat.one_mul]
    omega
  · next down =>
    simp only [Bool.or_eq_true, decide_eq_true_eq, Bool.and_eq_true, beq_iff_eq] at down
    omega

/-- What is rounded to zero is one half at most. -/
theorem roundQuotient_eq_zero_iff (numerator denominator : Nat) (positive : 0 < denominator) :
    roundQuotient numerator denominator = 0 ↔ 2 * numerator ≤ denominator := by
  constructor
  · intro zero
    have near := (roundQuotient_within_half numerator denominator positive).2
    rw [zero] at near
    omega
  · intro small
    have below : numerator < denominator := by omega
    simp [roundQuotient, Nat.div_eq_of_lt below, Nat.mod_eq_of_lt below, small]

/-- An exact quotient is left alone. -/
theorem roundQuotient_mul (quotient denominator : Nat) (positive : 0 < denominator) :
    roundQuotient (quotient * denominator) denominator = quotient := by
  simp only [roundQuotient, Nat.mul_mod_left, Nat.mul_div_cancel quotient positive]
  split
  · next up =>
    simp only [Bool.or_eq_true, decide_eq_true_eq, Bool.and_eq_true, beq_iff_eq] at up
    omega
  · rfl

/-- The decimal digits of a natural number. -/
def naturalText (number : Nat) : List Char := Nat.toDigits 10 number

/-- The decimal text of an integer. -/
def integerText (number : Int) : List Char :=
  if number < 0 then '-' :: naturalText number.natAbs else naturalText number.natAbs

/-- What follows the sign of a numeral, and whether the sign is a minus. -/
def dropSign : List Char → Bool × List Char
  | '-' :: rest => (true, rest)
  | '+' :: rest => (false, rest)
  | text => (false, text)

/-- The value of a run of decimal digits. -/
def digitsValue (digits : List Char) : Nat :=
  digits.foldl (fun value digit => 10 * value + (digit.toNat - '0'.toNat)) 0

/-- A numeral without the underscores in it, each of which must stand between two
digits. -/
def withoutUnderscores? (isDigit : Char → Bool) (text : List Char) : Option (List Char) :=
  go false text
where
  /-- The rest of the numeral behind a digit or another character. -/
  go (behindDigit : Bool) : List Char → Option (List Char)
    | [] => some []
    | character :: rest =>
      if character == '_' then
        if behindDigit && rest.head?.any isDigit then go false rest else none
      else (go (isDigit character) rest).map (character :: ·)

/-- The number of decimal digits up to which an integer is read. -/
def digitLimit : Nat := 4300

/-- What is said about an integer with a larger number of digits. -/
def tooManyDigitsMessage (count : Nat) : String :=
  String.ofList ("Exceeds the limit (".toList ++ naturalText digitLimit ++
    " digits) for integer string conversion: value has ".toList ++ naturalText count ++
    " digits; use sys.set_int_max_str_digits() to increase the limit".toList)

/-- The value of a run of digits in another base. -/
def digitsValueIn (base : Nat) (digits : List Nat) : Nat :=
  digits.foldl (fun value digit => base * value + digit) 0

/-- A number that a text with a point or an exponent may stand for. A zero may
have a sign, which only its text shows. -/
inductive Real64 where
  | finite (value : Rat)
  | negativeZero
  | infinite (negative : Bool)
  | notANumber
  deriving DecidableEq, Repr

namespace Real64

/-- Two to an integral power. -/
def powerOfTwo (exponent : Int) : Rat :=
  if 0 ≤ exponent then (Nat.pow 2 exponent.toNat : Nat)
  else 1 / (Nat.pow 2 (-exponent).toNat : Nat)

/-- The exponent of the last bit of the significand for a positive quotient. It
is bounded from below, where the numbers lose precision towards zero. -/
def lastBit (numerator denominator : Nat) : Int :=
  let estimate : Int := numerator.log2 - denominator.log2
  let reaches :=
    if 0 ≤ estimate then denominator * Nat.pow 2 estimate.toNat ≤ numerator
    else denominator ≤ numerator * Nat.pow 2 (-estimate).toNat
  max ((if reaches then estimate else estimate - 1) - 52) (-1074)

/-- The magnitude nearest to a quotient, before the bound on large numbers. -/
def nearestMagnitude (numerator denominator : Nat) : Rat :=
  if numerator = 0 then 0
  else
    let exponent := lastBit numerator denominator
    let significand :=
      if 0 ≤ exponent then roundQuotient numerator (denominator * Nat.pow 2 exponent.toNat)
      else roundQuotient (numerator * Nat.pow 2 (-exponent).toNat) denominator
    (significand : Rat) * powerOfTwo exponent

/-- The least magnitude that is too large. -/
def bound : Rat := powerOfTwo 1024

/-- The nearest representable number, if the value is not too large. -/
def nearest? (value : Rat) : Option Rat :=
  let magnitude := nearestMagnitude value.num.natAbs value.den
  if bound ≤ magnitude then none
  else some (if value.num < 0 then -magnitude else magnitude)

/-- Whether a value has a nearest representable number. -/
def fits (value : Rat) : Bool := (nearest? value).isSome

/-- The zero of a sign. -/
def zero (negative : Bool) : Real64 := if negative then .negativeZero else .finite 0

/-- A number with the other sign. -/
def negated : Real64 → Real64
  | finite value => if value = 0 then negativeZero else finite (-value)
  | negativeZero => finite 0
  | infinite negative => infinite !negative
  | notANumber => notANumber

/-- The number nearest to a value with a sign, of which the sign is given too
because a nearest zero keeps it. -/
def ofRational (negative : Bool) (value : Rat) : Real64 :=
  match nearest? value with
  | some value => if value = 0 then zero negative else .finite value
  | none => .infinite negative

/-- The number that `significand * 10 ^ exponent` stands for. Exponents that
settle the answer by themselves are not computed with. -/
def ofScientific (negative : Bool) (significand : Nat) (exponent : Int) : Real64 :=
  let digits : Int := (naturalText significand).length
  if significand = 0 then zero negative
  else if 400 < digits + exponent then .infinite negative
  else if digits + exponent < -400 then zero negative
  else
    let magnitude : Rat :=
      if 0 ≤ exponent then (significand * Nat.pow 10 exponent.toNat : Nat)
      else (significand : Rat) / (Nat.pow 10 (-exponent).toNat : Nat)
    ofRational negative (if negative then -magnitude else magnitude)

/-- The number that decimal digits stand for: at most one point among them, and
an exponent, of which only one digit is required. -/
def ofDigits? (negative : Bool) (text : List Char) : Option Real64 :=
  let whole := text.takeWhile Char.isDigit
  let afterWhole := text.dropWhile Char.isDigit
  let (fraction, afterFraction) :=
    match afterWhole with
    | '.' :: rest => (rest.takeWhile Char.isDigit, rest.dropWhile Char.isDigit)
    | rest => ([], rest)
  let significand := digitsValue (whole ++ fraction)
  let shift : Int := fraction.length
  if (whole ++ fraction).isEmpty then none
  else
    match afterFraction with
    | [] => some (ofScientific negative significand (-shift))
    | mark :: rest =>
      let (below, exponent) := dropSign rest
      if (mark == 'e' || mark == 'E') && !exponent.isEmpty && exponent.all Char.isDigit then
        let power : Int := digitsValue exponent
        some (ofScientific negative significand ((if below then -power else power) - shift))
      else none

/-- The words for numbers without digits, in small letters. -/
def words (negative : Bool) : List (String × Real64) :=
  [("inf", .infinite negative), ("infinity", .infinite negative), ("nan", .notANumber)]

/-- The number that a text stands for: a sign, and then digits or a word in any
case. Single underscores may stand between digits. -/
def ofText? (text : List Char) : Option Real64 :=
  let (negative, body) := dropSign text
  match (words negative).lookup (String.ofList (body.map Char.toLower)) with
  | some number => some number
  | none => (withoutUnderscores? Char.isDigit body).bind (ofDigits? negative)

/-- The value of a number; what is no finite number has none. -/
def toRational? : Real64 → Option Rat
  | finite value => some value
  | negativeZero => some 0
  | _ => none

/-- The integer that a number equals, if it is one. -/
def toInteger? (number : Real64) : Option Int :=
  match number.toRational? with
  | some value => if value.den = 1 then some value.num else none
  | none => none

end Real64

end Drafting.Number
