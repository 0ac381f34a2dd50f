import Drafting.Number.Decimal
import Drafting.Text.Blank
import Drafting.Text.Hex
import Drafting.Text.Quoted

/-!
# Numerals

A number that is given as a text may have white space around it, and its digits
may be those of any script. Integers may be written in several bases; of very many
digits they are not read, unless their base is a power of two.
-/

namespace Drafting.Number

/-- White space around a numeral. The information separators are not part of it. -/
def isSpace (character : Char) : Bool :=
  Text.isBlank character && !(28 ≤ character.toNat && character.toNat ≤ 31)

/-- The text without white space at its two ends. -/
def trimSpace (text : List Char) : List Char :=
  ((text.dropWhile isSpace).reverse.dropWhile isSpace).reverse

/-- The zeros of all scripts with decimal digits, in increasing order, as in version
14 of the Unicode character database. -/
def zeros : List Nat :=
  [ 0x30, 0x660, 0x6F0, 0x7C0, 0x966, 0x9E6, 0xA66, 0xAE6, 0xB66, 0xBE6, 0xC66, 0xCE6, 0xD66,
    0xDE6, 0xE50, 0xED0, 0xF20, 0x1040, 0x1090, 0x17E0, 0x1810, 0x1946, 0x19D0, 0x1A80, 0x1A90,
    0x1B50, 0x1BB0, 0x1C40, 0x1C50, 0xA620, 0xA8D0, 0xA900, 0xA9D0, 0xA9F0, 0xAA50, 0xABF0,
    0xFF10, 0x104A0, 0x10D30, 0x11066, 0x110F0, 0x11136, 0x111D0, 0x112F0, 0x11450, 0x114D0,
    0x11650, 0x116C0, 0x11730, 0x118E0, 0x11950, 0x11C50, 0x11D50, 0x11DA0, 0x16A60, 0x16AC0,
    0x16B50, 0x1D7CE, 0x1D7D8, 0x1D7E2, 0x1D7EC, 0x1D7F6, 0x1E140, 0x1E2F0, 0x1E950, 0x1FBF0 ]

/-- A character of a numeral, where a digit of any script is taken for the one of
ASCII with its value. In each script the digits follow the zero in their order. -/
def plainCharacter (character : Char) : Char :=
  let code := character.toNat
  match zeros.find? fun first => first ≤ code && code < first + 10 with
  | some first => Char.ofNat ('0'.toNat + (code - first))
  | none => character

/-- The digits of ASCII are digits of their own script and stay what they are. -/
theorem plainCharacter_of_isDigit {digit : Char} (plain : digit.isDigit = true) :
    plainCharacter digit = digit := by
  have lower : 48 ≤ digit.toNat := by
    simp only [Char.isDigit, Bool.and_eq_true, decide_eq_true_eq] at plain
    exact UInt32.le_iff_toNat_le.mp plain.1
  have upper : digit.toNat ≤ 57 := by
    simp only [Char.isDigit, Bool.and_eq_true, decide_eq_true_eq] at plain
    exact UInt32.le_iff_toNat_le.mp plain.2
  have first : zeros.find? (fun first => decide (first ≤ digit.toNat) &&
      decide (digit.toNat < first + 10)) = some 48 := by
    rw [zeros, List.find?_cons_of_pos]
    simp only [Bool.and_eq_true, decide_eq_true_eq]
    omega
  have same : '0'.toNat + (digit.toNat - 48) = digit.toNat := by
    have zero : '0'.toNat = 48 := rfl
    omega
  simp only [plainCharacter, first, same, Char.ofNat_toNat]

/-- A numeral without white space around it and with digits of ASCII. -/
def plainNumeral (text : String) : List Char := (trimSpace text.toList).map plainCharacter

/-- Why a text is no number. -/
inductive NumeralProblem where
  | notInteger (base : Nat) (text : String)
  | tooManyDigits (count : Nat)
  | notReal (text : String)
  deriving DecidableEq, Repr

/-- How much of a text that is no integer is shown, with its quotation marks. -/
def shownLength : Nat := 200

/-- What is said about a text that is no number. -/
def NumeralProblem.message : NumeralProblem → String
  | .notInteger base text =>
    "invalid literal for int() with base " ++ String.ofList (naturalText base) ++ ": " ++
      String.ofList ((Text.quoted text).toList.take shownLength)
  | .tooManyDigits count => tooManyDigitsMessage count
  | .notReal text => "could not convert string to float: " ++ Text.quoted text

/-- What follows the mark of a base, if there is one: a zero and the letter of the
base. -/
def behindMark (base : Nat) (numeral : List Char) : List Char :=
  match numeral with
  | '0' :: letter :: digits =>
    if [(2, 'b'), (8, 'o'), (16, 'x')].contains (base, letter.toLower) then digits else numeral
  | _ => numeral

/-- The value of a digit in a base. -/
def digitIn? (base : Nat) (character : Char) : Option Nat :=
  (Text.hexValue? character).filter (· < base)

/-- The integer that a text stands for in a base. Single underscores may stand
between its digits. -/
def integerIn (base : Nat) (text : String) : Except NumeralProblem Int :=
  let isDigit (character : Char) : Bool := (digitIn? base character).isSome
  let (negative, numeral) := dropSign (plainNumeral text)
  let numeral := behindMark base numeral
  let run := numeral.takeWhile fun character => character == '_' || isDigit character
  match withoutUnderscores? isDigit run with
  | none => .error (.notInteger base text)
  | some digits =>
    if base = 10 && decide (digitLimit < digits.length) then .error (.tooManyDigits digits.length)
    else if digits.isEmpty || run.length < numeral.length then .error (.notInteger base text)
    else
      let magnitude : Int := digitsValueIn base (digits.filterMap (digitIn? base))
      .ok (if negative then -magnitude else magnitude)

/-- The number with a point that a text stands for. -/
def realOf (text : String) : Except NumeralProblem Real64 :=
  match Real64.ofText? (plainNumeral text) with
  | some value => .ok value
  | none => .error (.notReal text)

end Drafting.Number
