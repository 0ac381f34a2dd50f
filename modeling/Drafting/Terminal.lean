import Drafting.Text.Lines

/-!
# Terminals

A terminal does not show a control sequence but acts on it: it moves, clears or
colours. Such a sequence is an escape character and an opening bracket, then any
number of parameters, then any number of intermediates, and one final character.
Each of the three is a range of its own among the visible characters of ASCII, so
it is never in doubt where a part ends. Text for anything else than a terminal is
printed without control sequences.

The main statements are that printing without them only takes characters away, and
that a text without an escape character stays as it is.
-/

namespace Drafting.Terminal

/-- The character with which a control sequence begins. -/
def escape : Char := '\x1b'

/-- The digits and the signs behind them up to the question mark. -/
def isParameter (character : Char) : Bool := '0' ≤ character && character ≤ '?'

/-- The space and the signs behind it up to the slash. -/
def isIntermediate (character : Char) : Bool := ' ' ≤ character && character ≤ '/'

/-- The letters of both cases and the signs around them, which end a control
sequence. -/
def isFinal (character : Char) : Bool := '@' ≤ character && character ≤ '~'

/-- What follows a control sequence whose escape character has been read. -/
def behindControl? : List Char → Option (List Char)
  | '[' :: parameters =>
    match (parameters.dropWhile isParameter).dropWhile isIntermediate with
    | [] => none
    | last :: rest => if isFinal last then some rest else none
  | _ => none

/-- What is printed for an escape character and the characters behind it up to the
next one. -/
def plainPiece (piece : List Char) : List Char :=
  (behindControl? piece).getD (escape :: piece)

/-- The text without its control sequences. No sequence holds a second escape
character, so each is found in one piece; what comes to stand together because a
sequence was left out is none. -/
def plain (text : List Char) : List Char :=
  match Text.split escape text with
  | [] => []
  | first :: pieces => first ++ pieces.flatMap plainPiece

/-- The text as it is printed, depending on whether a terminal shows it. -/
def shown (isTerminal : Bool) (text : String) : String :=
  if isTerminal then text else String.ofList (plain text.toList)

/-- What follows a control sequence is the end of the text. -/
theorem behindControl?_suffix {text rest : List Char} (read : behindControl? text = some rest) :
    rest <:+ text := by
  unfold behindControl? at read
  split at read
  · next parameters =>
    split at read
    · simp at read
    · next last behind remaining =>
      split at read
      · obtain rfl : behind = rest := by simpa using read
        have shorter : last :: behind <:+ parameters := by
          rw [← remaining]
          exact (List.dropWhile_suffix isIntermediate).trans (List.dropWhile_suffix isParameter)
        exact (List.suffix_cons last behind).trans (shorter.trans (List.suffix_cons '[' parameters))
      · simp at read
  · simp at read

/-- Nothing is printed that does not stand there. -/
theorem plainPiece_sublist (piece : List Char) : (plainPiece piece).Sublist (escape :: piece) := by
  unfold plainPiece
  match read : behindControl? piece with
  | none => exact List.Sublist.refl _
  | some rest => exact (behindControl?_suffix read).sublist.cons escape

/-- Printing without control sequences only takes characters away. -/
theorem plain_sublist (text : List Char) : (plain text).Sublist text := by
  unfold plain
  match pieces : Text.split escape text with
  | [] => exact List.nil_sublist text
  | first :: others =>
    have whole := Text.join_split escape text
    rw [pieces, Text.join_cons_eq_flatMap] at whole
    rw [← whole]
    refine (List.Sublist.refl first).append ?_
    clear whole pieces
    induction others with
    | nil => exact List.Sublist.refl _
    | cons piece rest inductionHypothesis =>
      exact (plainPiece_sublist piece).append inductionHypothesis

/-- A text without an escape character stays as it is. -/
theorem plain_eq_self {text : List Char} (absent : escape ∉ text) : plain text = text := by
  have whole := Text.join_split escape text
  unfold plain
  match pieces : Text.split escape text with
  | [] => exact absurd pieces (Text.split_ne_nil escape text)
  | [first] => simpa [pieces, Text.join] using whole
  | first :: second :: others =>
    rw [pieces, Text.join_cons_eq_flatMap] at whole
    exact absurd (by simp [← whole]) absent

end Drafting.Terminal
