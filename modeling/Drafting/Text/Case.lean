/-!
# Keywords in any case

Some keywords may be written in capitals. Besides the two ASCII forms of a
letter, its case variants beyond ASCII count: the dotted capital and the dotless
small i for `i`, the long s for `s` and the Kelvin sign for `k`. A keyword so
written need not have the plain keyword as its lower-case form, since the
dotless i and the long s are small letters already.

The main statement is that a keyword in plain small letters is read as itself.
-/

namespace Drafting.Text

/-- Whether a character stands for the given small ASCII letter when case does
not matter. A character that is no letter stands for itself only. -/
def sameLetter (letter character : Char) : Bool :=
  character.toLower == letter ||
    (letter == 'i' && (character == '\u0130' || character == '\u0131')) ||
    (letter == 's' && character == '\u017f') ||
    (letter == 'k' && character == '\u212a')

/-- Reads a keyword in any case and answers with the characters as they were
written and with what follows them. -/
def readLetters : List Char → List Char → Option (List Char × List Char)
  | [], rest => some ([], rest)
  | _ :: _, [] => none
  | letter :: letters, character :: rest =>
    if sameLetter letter character then
      (readLetters letters rest).map fun (written, rest) => (character :: written, rest)
    else none

/-- `readLetters` for a keyword given as a string of small letters. -/
def expectAnyCase (keyword : String) (line : List Char) : Option (List Char × List Char) :=
  readLetters keyword.toList line

/-- The first keyword of a list with which the line begins, as it was written. -/
def firstKeyword (keywords : List String) (line : List Char) : Option (List Char × List Char) :=
  keywords.findSome? fun keyword => expectAnyCase keyword line

/-- The lower-case form of one character of a keyword. The dotted capital I
becomes a small i with a combining dot, the one case of two characters. -/
def lowerLetter (character : Char) : List Char :=
  if character == '\u0130' then ['i', '\u0307']
  else if character == '\u212a' then ['k']
  else [character.toLower]

/-- The lower-case form of a keyword as it was written. -/
def lowerKeyword (written : List Char) : List Char := written.flatMap lowerLetter

/-- The text with its ASCII capitals made small. Enough for the search for
keywords of two or more small letters, blanks and marks that hold no `k`: no
other capital has an ASCII letter as its small form, except the dotted I, whose
small form puts a combining dot behind the i. -/
def lowerPlain (text : List Char) : List Char := text.map Char.toLower

/-- A keyword in plain small letters is read as itself. -/
theorem readLetters_append (keyword rest : List Char)
    (small : ∀ letter ∈ keyword, letter.toLower = letter) :
    readLetters keyword (keyword ++ rest) = some (keyword, rest) := by
  induction keyword with
  | nil => rfl
  | cons letter letters inductionHypothesis =>
    have tail := inductionHypothesis fun other inTail => small other (by simp [inTail])
    have head : sameLetter letter letter = true := by simp [sameLetter, small letter (by simp)]
    simp [readLetters, head, tail]

end Drafting.Text
