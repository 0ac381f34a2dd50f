import Drafting.Text.Blank

/-!
# Lines of a source text

A source text is split at line feeds. Its lines are trimmed, and those that are
empty or begin with an apostrophe, the comment mark, are left out.

The main statements are that joining the pieces of a split gives the text back
and that no normalized line is empty or a comment.
-/

namespace Drafting.Text

/-- The pieces of a text between the occurrences of a separator. There is one
more piece than there are separators. -/
def split (separator : Char) : List Char → List (List Char)
  | [] => [[]]
  | character :: rest =>
    if character == separator then [] :: split separator rest
    else
      match split separator rest with
      | [] => [[character]]
      | piece :: pieces => (character :: piece) :: pieces

/-- The pieces put together again, with a separator between each two. -/
def join (separator : List Char) : List (List Char) → List Char
  | [] => []
  | [piece] => piece
  | piece :: pieces => piece ++ separator ++ join separator pieces

/-- Strings put together with a separator between each two. -/
def joinStrings (separator : String) (pieces : List String) : String :=
  String.ofList (join separator.toList (pieces.map String.toList))

/-- The mark with which a comment begins. -/
def commentMark : Char := '\x27'

/-- Whether a trimmed line carries anything: it is neither empty nor a comment. -/
def carriesContent : List Char → Bool
  | [] => false
  | character :: _ => character != commentMark

/-- The trimmed lines of a text that carry content. -/
def normalizedLines (text : String) : List String :=
  (((split '\n' text.toList).map trim).filter carriesContent).map String.ofList

/-- Each line end, be it a carriage return, a line feed or the former before the
latter, as one line feed. -/
def unifyLineEnds : List Char → List Char
  | [] => []
  | '\r' :: '\n' :: rest => '\n' :: unifyLineEnds rest
  | '\r' :: rest => '\n' :: unifyLineEnds rest
  | character :: rest => character :: unifyLineEnds rest

/-- A split has at least one piece. -/
theorem split_ne_nil (separator : Char) (text : List Char) : split separator text ≠ [] := by
  cases text with
  | nil => simp [split]
  | cons character rest =>
    rw [split]
    split
    · simp
    · split <;> simp

/-- Nothing is lost by splitting a text. -/
theorem join_split (separator : Char) (text : List Char) :
    join [separator] (split separator text) = text := by
  induction text with
  | nil => rfl
  | cons character rest inductionHypothesis =>
    rw [split]
    split
    · next same =>
      have equal : character = separator := by simpa using same
      match pieces : split separator rest with
      | [] => exact absurd pieces (split_ne_nil separator rest)
      | piece :: others =>
        rw [pieces] at inductionHypothesis
        simp [join, inductionHypothesis, equal]
    · match pieces : split separator rest with
      | [] => exact absurd pieces (split_ne_nil separator rest)
      | [piece] =>
        rw [pieces] at inductionHypothesis
        simpa [join] using inductionHypothesis
      | piece :: other :: others =>
        rw [pieces] at inductionHypothesis
        simpa [join] using inductionHypothesis

/-- The pieces behind the first one are put together with a separator before each. -/
theorem join_cons_eq_flatMap (separator first : List Char) (pieces : List (List Char)) :
    join separator (first :: pieces) = first ++ pieces.flatMap (separator ++ ·) := by
  induction pieces generalizing first with
  | nil => simp [join]
  | cons piece others inductionHypothesis => simp [join, inductionHypothesis]

/-- No normalized line is empty or begins with the comment mark. -/
theorem normalizedLines_carry_content (text line : String) (member : line ∈ normalizedLines text) :
    carriesContent line.toList = true := by
  simp only [normalizedLines, List.mem_map, List.mem_filter] at member
  obtain ⟨characters, ⟨_, carries⟩, rfl⟩ := member
  simpa using carries

end Drafting.Text
