import Drafting.Number.Coordinate
import Mathlib.Algebra.Order.Field.Basic
import Mathlib.Algebra.Order.Ring.Rat
import Mathlib.Data.List.Basic
import Mathlib.Tactic.Linarith
import Mathlib.Tactic.NormNum

/-!
# What coordinate texts stand for

A reader takes the text of a coordinate for a decimal numeral: perhaps a minus sign, digits, and
perhaps a point with digits behind it. It stands for an exact number. The text of a coordinate is
written from the number of its hundredths, so everything about it follows from the rounding of that
number and from how its digits are divided before and behind the point.

The main statement tells how such a text looks, how far the number it stands for is from the
coordinate, and when two coordinates have the same text. Two texts may stand for the same number:
the zero of a negative coordinate keeps the minus sign.
-/

namespace Drafting.Number

/-- A decimal numeral: whether it has a minus sign, its digits before the point and those behind
it. -/
structure DecimalNumeral where
  negative : Bool
  whole : List Char
  fraction : List Char
  deriving DecidableEq, Repr

/-- A magnitude with a sign. -/
def signed (negative : Bool) (magnitude : Rat) : Rat := if negative then -magnitude else magnitude

/-- A number is its magnitude with its sign. -/
theorem signed_abs (value : Rat) : signed (value < 0) |value| = value := by
  by_cases negative : value < 0
  · simp [signed, negative, abs_of_neg]
  · simp [signed, negative, abs_of_nonneg (not_lt.mp negative)]

/-- Numbers of the same sign are as far apart as their magnitudes. -/
theorem abs_signed_sub_signed (negative : Bool) (first second : Rat) :
    |signed negative first - signed negative second| = |first - second| := by
  cases negative with
  | false => rfl
  | true => simp only [signed, if_true, neg_sub_neg, abs_sub_comm]

/-- Numbers of the same sign are equal exactly if their magnitudes are. -/
theorem signed_inj (negative : Bool) (first second : Rat) :
    signed negative first = signed negative second ↔ first = second := by
  cases negative <;> simp [signed]

/-- Two numbers of hundredths with signs are equal exactly if the hundredths are, and the signs
unless there are no hundredths. -/
theorem signed_hundredths_inj {first second : Bool} {one other : Nat} :
    signed first (one / 100) = signed second (other / 100) ↔
      one = other ∧ (one = 0 ∨ first = second) := by
  have opposite (left right : Nat) : (left / 100 : Rat) = -(right / 100) ↔ left + right = 0 := by
    rw [← add_eq_zero_iff_eq_neg, ← add_div, div_eq_zero_iff, or_iff_left (by norm_num),
      ← Nat.cast_add, Nat.cast_eq_zero]
  rcases eq_or_ne first second with rfl | different
  · rw [signed_inj, div_left_inj' (by norm_num), Nat.cast_inj]
    simp
  · have zeros : signed first (one / 100) = signed second (other / 100) ↔ one + other = 0 := by
      cases first <;> cases second
      case false.true => exact opposite one other
      case true.false =>
        rw [eq_comm, Nat.add_comm]
        exact opposite other one
      all_goals exact absurd rfl different
    rw [zeros, or_iff_left different]
    omega

namespace DecimalNumeral

/-- The digits behind the point, and the point if there are any. -/
def behindWhole (fraction : List Char) : List Char :=
  if fraction = [] then [] else '.' :: fraction

/-- The text of a numeral. -/
def text (numeral : DecimalNumeral) : List Char :=
  (if numeral.negative then ['-'] else []) ++ (numeral.whole ++ behindWhole numeral.fraction)

/-- The number that a numeral stands for. -/
def value (numeral : DecimalNumeral) : Rat :=
  signed numeral.negative
    (digitsValue (numeral.whole ++ numeral.fraction) / 10 ^ numeral.fraction.length)

/-- Reads a numeral behind its sign. There must be digits before a point and behind it. -/
def ofUnsigned? (negative : Bool) (text : List Char) : Option DecimalNumeral :=
  let whole := text.takeWhile Char.isDigit
  if whole = [] then none
  else
    match text.dropWhile Char.isDigit with
    | [] => some ⟨negative, whole, []⟩
    | '.' :: fraction =>
      if fraction ≠ [] ∧ fraction.all Char.isDigit then some ⟨negative, whole, fraction⟩ else none
    | _ => none

/-- Reads a numeral. -/
def ofText? : List Char → Option DecimalNumeral
  | '-' :: text => ofUnsigned? true text
  | text => ofUnsigned? false text

/-- What a numeral looks like that is as short as it can be. There are digits before the point,
of which the first is a zero only if it is the only one, and at most two behind it, of which the
last is no zero. -/
structure IsTidy (numeral : DecimalNumeral) : Prop where
  wholeDigits : ∀ digit ∈ numeral.whole, digit.isDigit = true
  fractionDigits : ∀ digit ∈ numeral.fraction, digit.isDigit = true
  nonempty : numeral.whole ≠ []
  leadingZero : numeral.whole.head? = some '0' → numeral.whole = ['0']
  short : numeral.fraction.length ≤ 2
  trailingZero : numeral.fraction.getLast? ≠ some '0'

/-- The shortest numeral for a number of hundredths. -/
def ofHundredths (negative : Bool) (hundredths : Nat) : DecimalNumeral :=
  ⟨negative, naturalText (hundredths / 100), (hundredthsText (hundredths % 100)).tail⟩

/-- Digits before and behind the point are told apart. -/
theorem ofUnsigned?_append (negative : Bool) {whole fraction : List Char} (nonempty : whole ≠ [])
    (wholeDigits : ∀ digit ∈ whole, digit.isDigit = true)
    (fractionDigits : ∀ digit ∈ fraction, digit.isDigit = true) :
    ofUnsigned? negative (whole ++ behindWhole fraction) = some ⟨negative, whole, fraction⟩ := by
  have point : Char.isDigit '.' = false := by decide
  have taken : (whole ++ behindWhole fraction).takeWhile Char.isDigit = whole := by
    rw [List.takeWhile_append_of_pos wholeDigits]
    cases fraction <;> simp [behindWhole, point]
  have left : (whole ++ behindWhole fraction).dropWhile Char.isDigit = behindWhole fraction := by
    rw [List.dropWhile_append_of_pos wholeDigits]
    cases fraction <;> simp [behindWhole, point]
  rw [ofUnsigned?, taken, left]
  cases fraction with
  | nil => simp [behindWhole, nonempty]
  | cons digit others => simpa [behindWhole, nonempty] using fractionDigits

/-- A tidy numeral is read from its text. -/
theorem ofText?_text {numeral : DecimalNumeral} (tidy : numeral.IsTidy) :
    ofText? numeral.text = some numeral := by
  obtain ⟨negative, whole, fraction⟩ := numeral
  have unsigned : ofUnsigned? negative (whole ++ behindWhole fraction) =
      some ⟨negative, whole, fraction⟩ :=
    ofUnsigned?_append negative tidy.nonempty tidy.wholeDigits tidy.fractionDigits
  cases negative with
  | true => exact unsigned
  | false =>
    -- The first digit is no sign.
    obtain ⟨digit, others, rfl⟩ := List.exists_cons_of_ne_nil tidy.nonempty
    have different : digit ≠ '-' := by
      rintro rfl
      exact absurd (tidy.wholeDigits '-' List.mem_cons_self) (by decide)
    simpa [ofText?, text, different] using unsigned

end DecimalNumeral

/-- The digits of a natural number stand for it. -/
theorem digitsValue_naturalText (number : Nat) : digitsValue (naturalText number) = number :=
  Nat.ofDigitChars_ten_toDigits

/-- A number below ten is written with one digit. -/
theorem naturalText_of_lt {number : Nat} (single : number < 10) :
    naturalText number = [Nat.digitChar number] :=
  Nat.toDigits_of_lt_base single

/-- The digits of a number begin with a zero only for zero itself. -/
theorem naturalText_of_leadingZero (number : Nat)
    (zero : (naturalText number).head? = some '0') : naturalText number = ['0'] := by
  induction number using Nat.strongRecOn with
  | ind number inductionHypothesis =>
    by_cases small : number < 10
    · rw [naturalText_of_lt small] at zero ⊢
      simpa using zero
    · have digits := Nat.toDigits_of_base_le (by decide) (Nat.le_of_not_lt small)
      have front : (naturalText (number / 10)).head? = some '0' := by
        rw [naturalText, digits, List.head?_append_of_ne_nil _ Nat.toDigits_ne_nil] at zero
        exact zero
      -- The front would stand for zero, and then there would be no digit behind it.
      have tenths := digitsValue_naturalText (number / 10)
      rw [inductionHypothesis (number / 10) (by omega) front] at tenths
      have vanished : number / 10 = 0 := tenths.symm
      omega

/-- Digits behind others shift their value. -/
theorem digitsValue_append (front back : List Char) :
    digitsValue (front ++ back) = 10 ^ back.length * digitsValue front + digitsValue back := by
  have appended : digitsValue (front ++ back) = Nat.ofDigitChars 10 back (digitsValue front) :=
    Nat.ofDigitChars_append 0
  rw [appended, Nat.ofDigitChars_eq_ofDigitChars_zero]
  rfl

/-- A digit stands for the number it was made from. -/
theorem digitsValue_digitChar {number : Nat} (single : number < 10) :
    digitsValue [Nat.digitChar number] = number := by
  rw [← naturalText_of_lt single, digitsValue_naturalText]

/-- Hundredths below one are written with two digits at most, of which the last is no zero. -/
theorem hundredthsText_spec (hundredths : Nat) (below : hundredths < 100) :
    let fraction := (hundredthsText hundredths).tail
    hundredthsText hundredths = DecimalNumeral.behindWhole fraction ∧
      (∀ digit ∈ fraction, digit.isDigit = true) ∧ fraction.length ≤ 2 ∧
      fraction.getLast? ≠ some '0' ∧
      digitsValue fraction * 10 ^ (2 - fraction.length) = hundredths := by
  have tens : hundredths / 10 < 10 := by omega
  have ones : hundredths % 10 < 10 := by omega
  rw [hundredthsText]
  split
  next zero => simp [zero, DecimalNumeral.behindWhole, digitsValue]
  next =>
    split
    next round =>
      have nonzero : hundredths / 10 ≠ 0 := by omega
      have value : hundredths / 10 * 10 = hundredths := by omega
      rw [naturalText_of_lt tens]
      simp [DecimalNumeral.behindWhole, Nat.isDigit_digitChar, tens, nonzero, value,
        digitsValue_digitChar]
    next rest =>
      have value : 10 * (hundredths / 10) + hundredths % 10 = hundredths := by omega
      have digits : digitsValue [Nat.digitChar (hundredths / 10), Nat.digitChar (hundredths % 10)] =
          10 * (hundredths / 10) + hundredths % 10 := by
        rw [← List.singleton_append, digitsValue_append, digitsValue_digitChar tens,
          digitsValue_digitChar ones, List.length_singleton, Nat.pow_one]
      simp [DecimalNumeral.behindWhole, Nat.isDigit_digitChar, tens, ones, rest, value, digits]

namespace DecimalNumeral

/-- The numeral for a number of hundredths is as short as it can be. -/
theorem isTidy_ofHundredths (negative : Bool) (hundredths : Nat) :
    (ofHundredths negative hundredths).IsTidy := by
  obtain ⟨_, digits, short, last, _⟩ :=
    hundredthsText_spec (hundredths % 100) (Nat.mod_lt _ (by decide))
  exact {
    wholeDigits := fun _ => Nat.isDigit_of_mem_toDigits (by decide) (by decide)
    fractionDigits := digits
    nonempty := Nat.toDigits_ne_nil
    leadingZero := naturalText_of_leadingZero _
    short := short
    trailingZero := last }

/-- A numeral with two digits behind the point at most stands for the hundredths that its digits
give with zeros in the places left out. -/
theorem value_of_padded {numeral : DecimalNumeral} {hundredths : Nat}
    (short : numeral.fraction.length ≤ 2)
    (padded : digitsValue (numeral.whole ++ numeral.fraction) *
      10 ^ (2 - numeral.fraction.length) = hundredths) :
    numeral.value = signed numeral.negative (hundredths / 100) := by
  have places :
      (10 : Rat) ^ (2 - numeral.fraction.length) * 10 ^ numeral.fraction.length = 100 := by
    rw [← pow_add, Nat.sub_add_cancel short]
    norm_num
  rw [value, ← padded]
  congr 1
  rw [div_eq_div_iff (by positivity) (by norm_num), Nat.cast_mul, Nat.cast_pow, Nat.cast_ofNat,
    mul_assoc, places]

/-- What the numeral for a number of hundredths stands for. -/
theorem value_ofHundredths (negative : Bool) (hundredths : Nat) :
    (ofHundredths negative hundredths).value = signed negative (hundredths / 100) := by
  obtain ⟨_, _, short, _, padded⟩ :=
    hundredthsText_spec (hundredths % 100) (Nat.mod_lt _ (by decide))
  have places (count : Nat) (few : count ≤ 2) : 10 ^ count * 10 ^ (2 - count) = 100 := by
    rw [← Nat.pow_add, Nat.add_sub_cancel' few]
  refine value_of_padded short ?_
  rw [ofHundredths, digitsValue_append, digitsValue_naturalText, Nat.add_mul, padded,
    Nat.mul_right_comm, places _ short, Nat.div_add_mod]

/-- The text of the numeral for a number of hundredths. -/
theorem text_ofHundredths (negative : Bool) (hundredths : Nat) :
    (ofHundredths negative hundredths).text = (if negative then ['-'] else []) ++
      (naturalText (hundredths / 100) ++ hundredthsText (hundredths % 100)) := by
  have written := (hundredthsText_spec (hundredths % 100) (Nat.mod_lt _ (by decide))).1
  rw [text, ofHundredths, ← written]

/-- Different signs or hundredths have different texts. -/
theorem text_ofHundredths_inj {first second : Bool} {one other : Nat} :
    (ofHundredths first one).text = (ofHundredths second other).text ↔
      first = second ∧ one = other := by
  constructor
  · intro same
    -- Both numerals are read from the text, and their values give the hundredths.
    have read := ofText?_text (isTidy_ofHundredths first one)
    rw [same, ofText?_text (isTidy_ofHundredths second other)] at read
    have numerals : ofHundredths first one = ofHundredths second other :=
      (Option.some.inj read).symm
    have signs : first = second := congrArg negative numerals
    have values := congrArg value numerals
    rw [value_ofHundredths, value_ofHundredths, signs, signed_inj, div_left_inj' (by norm_num),
      Nat.cast_inj] at values
    exact ⟨signs, values⟩
  · rintro ⟨rfl, rfl⟩
    rfl

end DecimalNumeral

/-- The number of hundredths that is written for a number, without its sign. -/
def writtenHundredths (value : Rat) : Nat := roundQuotient (100 * value.num.natAbs) value.den

/-- The numeral that is written for a number. -/
def writtenNumeral (value : Rat) : DecimalNumeral :=
  .ofHundredths (value < 0) (writtenHundredths value)

/-- The written numeral is as short as it can be. -/
theorem isTidy_writtenNumeral (value : Rat) : (writtenNumeral value).IsTidy :=
  DecimalNumeral.isTidy_ofHundredths _ _

/-- The text of a coordinate is that of its numeral. Integers are no exception, though they are
written without rounding. -/
theorem coordinateText_eq (value : Rat) :
    coordinateText value = String.ofList (writtenNumeral value).text := by
  have sign : value.num < 0 ↔ value < 0 := Rat.num_neg
  rw [coordinateText, writtenNumeral, DecimalNumeral.text_ofHundredths]
  split
  next integral =>
    have whole : writtenHundredths value = value.num.natAbs * 100 := by
      rw [writtenHundredths, integral, Nat.mul_comm]
      simpa using roundQuotient_mul (value.num.natAbs * 100) 1 (by decide)
    rw [whole, Nat.mul_div_cancel _ (by decide), Nat.mul_mod_left]
    by_cases negative : value < 0 <;> simp [integerText, hundredthsText, sign, negative]
  next =>
    by_cases negative : value < 0 <;> simp [writtenHundredths, sign, negative]

/-- The magnitude of a number times its denominator is that of its numerator. -/
theorem abs_mul_den (value : Rat) : |value| * value.den = value.num.natAbs := by
  rw [← Nat.abs_cast value.den, ← abs_mul, Rat.mul_den_eq_num, ← Int.cast_abs, Int.abs_eq_natAbs,
    Int.cast_natCast]

/-- Rounding moves the number of hundredths by one half at most. -/
theorem writtenHundredths_near (value : Rat) :
    |100 * |value| - writtenHundredths value| ≤ 1 / 2 := by
  obtain ⟨above, below⟩ :=
    roundQuotient_within_half (100 * value.num.natAbs) value.den value.pos
  have positive : (0 : Rat) < value.den := Nat.cast_pos.mpr value.pos
  have lower : 2 * (writtenHundredths value * value.den : Rat) ≤
      2 * (100 * (|value| * value.den)) + value.den := by
    rw [abs_mul_den]
    exact_mod_cast above
  have upper : 2 * (100 * (|value| * value.den)) ≤
      2 * (writtenHundredths value * value.den : Rat) + value.den := by
    rw [abs_mul_den]
    exact_mod_cast below
  rw [abs_le]
  constructor
  · refine le_of_mul_le_mul_right ?_ positive
    linarith
  · refine le_of_mul_le_mul_right ?_ positive
    linarith

/-- No hundredths are written for a number that is half of one away from zero at most, and for no
other number. -/
theorem writtenHundredths_eq_zero_iff (value : Rat) :
    writtenHundredths value = 0 ↔ |value| ≤ 1 / 200 := by
  have positive : (0 : Rat) < value.den := Nat.cast_pos.mpr value.pos
  have scaled : |value| ≤ 1 / 200 ↔ (value.num.natAbs : Rat) ≤ 1 / 200 * value.den := by
    rw [← abs_mul_den, mul_le_mul_iff_of_pos_right positive]
  rw [writtenHundredths, roundQuotient_eq_zero_iff _ _ value.pos, scaled, ← Nat.cast_le (α := Rat)]
  push_cast
  constructor <;> intro small <;> linarith

/-- Rounding leaves the number of hundredths alone exactly if it is an integer. -/
theorem writtenHundredths_eq_iff (value : Rat) :
    100 * |value| = writtenHundredths value ↔ ∃ hundredths : Int, 100 * value = hundredths := by
  constructor
  · intro unchanged
    rcases abs_choice value with same | opposite
    · exact ⟨writtenHundredths value, by rw [Int.cast_natCast, ← unchanged, same]⟩
    · exact ⟨-writtenHundredths value, by
        rw [Int.cast_neg, Int.cast_natCast, ← unchanged, opposite, mul_neg, neg_neg]⟩
  · rintro ⟨hundredths, integral⟩
    have magnitude : 100 * |value| = hundredths.natAbs := by
      rw [← Nat.abs_ofNat 100, ← abs_mul, integral, ← Int.cast_abs, Int.abs_eq_natAbs,
        Int.cast_natCast]
    have numerator : 100 * value.num.natAbs = hundredths.natAbs * value.den := by
      have scaled : (100 * value.num.natAbs : Rat) = hundredths.natAbs * value.den := by
        rw [← abs_mul_den, ← mul_assoc, magnitude]
      exact_mod_cast scaled
    rw [magnitude, writtenHundredths, numerator, roundQuotient_mul _ _ value.pos]

/-- The number that is written. -/
theorem value_writtenNumeral (value : Rat) :
    (writtenNumeral value).value = signed (value < 0) (writtenHundredths value / 100) :=
  DecimalNumeral.value_ofHundredths _ _

/-- The written number is half a hundredth away at most. -/
theorem value_writtenNumeral_near (value : Rat) :
    |(writtenNumeral value).value - value| ≤ 1 / 200 := by
  have near := abs_le.mp (writtenHundredths_near value)
  have apart := abs_signed_sub_signed (value < 0) (writtenHundredths value / 100) |value|
  rw [signed_abs] at apart
  rw [value_writtenNumeral, apart, abs_le]
  constructor <;> linarith

/-- The written number is exact for hundredths and for nothing else. -/
theorem value_writtenNumeral_eq_iff (value : Rat) :
    (writtenNumeral value).value = value ↔ ∃ hundredths : Int, 100 * value = hundredths := by
  have same := signed_inj (value < 0) (writtenHundredths value / 100) |value|
  rw [signed_abs] at same
  rw [value_writtenNumeral, same, ← writtenHundredths_eq_iff, div_eq_iff (by norm_num), eq_comm,
    mul_comm]

/-- A negative number that is rounded to zero. -/
def VanishesBelow (value : Rat) : Prop := -(1 / 200) ≤ value ∧ value < 0

instance (value : Rat) : Decidable (VanishesBelow value) := inferInstanceAs (Decidable (_ ∧ _))

/-- The negative numbers without hundredths. -/
theorem vanishesBelow_iff (value : Rat) :
    VanishesBelow value ↔ value < 0 ∧ writtenHundredths value = 0 := by
  rw [VanishesBelow, writtenHundredths_eq_zero_iff, and_comm]
  refine and_congr_right fun negative => ?_
  rw [abs_of_neg negative, neg_le]

/-- A coordinate has the text of some hundredths exactly if it has their sign and is rounded to
them. -/
theorem coordinateText_eq_iff (value : Rat) (negative : Bool) (hundredths : Nat) :
    coordinateText value = String.ofList (DecimalNumeral.ofHundredths negative hundredths).text ↔
      decide (value < 0) = negative ∧ writtenHundredths value = hundredths := by
  rw [coordinateText_eq, String.ofList_inj, writtenNumeral, DecimalNumeral.text_ofHundredths_inj]

/-- The text without a sign that stands for zero. -/
theorem coordinateText_eq_zero_iff (value : Rat) :
    coordinateText value = "0" ↔ 0 ≤ value ∧ value ≤ 1 / 200 := by
  have zero : "0" = String.ofList (DecimalNumeral.ofHundredths false 0).text := by decide
  rw [zero, coordinateText_eq_iff, decide_eq_false_iff_not, not_lt, writtenHundredths_eq_zero_iff]
  refine and_congr_right fun positive => ?_
  rw [abs_of_nonneg positive]

/-- The text with a sign that stands for zero. -/
theorem coordinateText_eq_signedZero_iff (value : Rat) :
    coordinateText value = "-0" ↔ VanishesBelow value := by
  have zero : "-0" = String.ofList (DecimalNumeral.ofHundredths true 0).text := by decide
  rw [zero, coordinateText_eq_iff, decide_eq_true_iff, vanishesBelow_iff]

/-- The number that a text stands for, if it is the text of a numeral. -/
def denoted? (text : String) : Option Rat :=
  (DecimalNumeral.ofText? text.toList).map DecimalNumeral.value

/-- The text of a coordinate stands for its hundredths. -/
theorem denoted?_coordinateText (value : Rat) :
    denoted? (coordinateText value) =
      some (signed (value < 0) (writtenHundredths value / 100)) := by
  have read := DecimalNumeral.ofText?_text (isTidy_writtenNumeral value)
  rw [denoted?, coordinateText_eq, String.toList_ofList, read, Option.map_some,
    value_writtenNumeral]

/-- Two coordinates have the same text exactly if their texts stand for the same number and both of
them vanish below zero, or neither. -/
theorem coordinateText_inj (first second : Rat) :
    coordinateText first = coordinateText second ↔
      denoted? (coordinateText first) = denoted? (coordinateText second) ∧
        (VanishesBelow first ↔ VanishesBelow second) := by
  have texts : coordinateText first = coordinateText second ↔
      (first < 0 ↔ second < 0) ∧ writtenHundredths first = writtenHundredths second := by
    rw [coordinateText_eq second, writtenNumeral, coordinateText_eq_iff, decide_eq_decide]
  rw [texts, denoted?_coordinateText, denoted?_coordinateText, Option.some.injEq,
    signed_hundredths_inj, vanishesBelow_iff, vanishesBelow_iff, decide_eq_decide]
  constructor
  · rintro ⟨signs, same⟩
    exact ⟨⟨same, .inr signs⟩, by rw [signs, same]⟩
  · rintro ⟨⟨same, zero | signs⟩, vanish⟩
    -- Without hundredths it is the sign alone that makes a number vanish below zero.
    · simpa [← same, zero] using vanish
    · exact ⟨signs, same⟩

/-- Every finite number is written as a coordinate; a zero with a sign is written without it. -/
theorem realText_of_finite {number : Real64} {value : Rat}
    (finite : number.toRational? = some value) : realText number = coordinateText value := by
  cases number with
  | finite given =>
    cases finite
    rfl
  | negativeZero =>
    cases finite
    rfl
  | infinite negative => cases finite
  | notANumber => cases finite

/-- A finite number is written as a numeral that is as short as it can be, with two digits behind
the point at most and a minus sign exactly for negative numbers. The numeral stands for a number
that is half a hundredth away at most, and for the number itself exactly if that is one of
hundredths, as integers and halves are. What is rounded to zero is written as zero, but with a sign
from below. So two numbers are written alike exactly if what is written stands for the same number
and both or none of them are negative numbers that are rounded to zero. -/
theorem finite_number_written {number : Real64} {value : Rat}
    (finite : number.toRational? = some value) :
    (∃ numeral : DecimalNumeral, numeral.IsTidy ∧ (realText number).toList = numeral.text ∧
      (numeral.negative = true ↔ value < 0) ∧
      denoted? (realText number) = some numeral.value ∧ |numeral.value - value| ≤ 1 / 200 ∧
      (numeral.value = value ↔ ∃ hundredths : Int, 100 * value = hundredths) ∧
      ∀ halves : Int, 2 * value = halves → numeral.value = value) ∧
    (realText number = "0" ↔ 0 ≤ value ∧ value ≤ 1 / 200) ∧
    (realText number = "-0" ↔ VanishesBelow value) ∧
    ∀ {other : Real64} {otherValue : Rat}, other.toRational? = some otherValue →
      (realText number = realText other ↔
        denoted? (realText number) = denoted? (realText other) ∧
          (VanishesBelow value ↔ VanishesBelow otherValue)) := by
  have unchanged := value_writtenNumeral_eq_iff value
  rw [realText_of_finite finite]
  refine ⟨⟨writtenNumeral value, isTidy_writtenNumeral value, ?_, decide_eq_true_iff, ?_,
    value_writtenNumeral_near value, unchanged, ?_⟩, coordinateText_eq_zero_iff value,
    coordinateText_eq_signedZero_iff value, ?_⟩
  · rw [coordinateText_eq, String.toList_ofList]
  · rw [denoted?_coordinateText, value_writtenNumeral]
  · intro halves twice
    refine unchanged.mpr ⟨50 * halves, ?_⟩
    push_cast
    linarith
  · intro other otherValue otherFinite
    rw [realText_of_finite otherFinite]
    exact coordinateText_inj value otherValue

/-- Twelve and a half is written exactly, and a number next to it is written alike. -/
theorem finite_number_written_half :
    (Real64.finite (25 / 2)).toRational? = some (25 / 2) ∧
      (Real64.finite (3199 / 256)).toRational? = some (3199 / 256) ∧
      (∃ numeral : DecimalNumeral, numeral.IsTidy ∧
        (realText (.finite (25 / 2))).toList = numeral.text ∧ numeral.value = 25 / 2) ∧
      realText (.finite (25 / 2)) = realText (.finite (3199 / 256)) := by
  have finite : (Real64.finite (25 / 2)).toRational? = some (25 / 2) := rfl
  obtain ⟨⟨numeral, tidy, text, _, _, _, _, halves⟩, _, _, alike⟩ := finite_number_written finite
  exact ⟨finite, rfl, ⟨numeral, tidy, text, halves 25 (by norm_num)⟩,
    (alike rfl).mpr (by decide +kernel)⟩

/-- A negative number that is rounded to zero keeps its sign, so zero is written in two ways; the
zero that has a sign itself loses it. -/
theorem zero_written_with_sign :
    Real64.nearest? (-1 / 256) = some (-1 / 256) ∧ realText (.finite (-1 / 256)) = "-0" ∧
      realText (.finite (1 / 256)) = "0" ∧ realText .negativeZero = "0" ∧
      denoted? "-0" = some 0 ∧ denoted? "0" = some 0 := by
  decide +kernel

end Drafting.Number
