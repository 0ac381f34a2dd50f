import Drafting.Text.Case
import Drafting.Text.Escape
import Drafting.Text.Lines
import Drafting.Text.Scan

/-!
# Line ends of one and of two characters

Some systems write a carriage return before every line feed. It is a blank that stands at the
end of its line, so trimming the lines of a text removes it, and a reader that looks for a text
without line ends finds it at the same places.

The main statements are that the trimmed lines of a text do not depend on its line ends, and
that a search does not where its reader does not.
-/

namespace Drafting.Text

variable {α β : Type}

/-- The text with a carriage return before every line feed. -/
def widenLineEnds (text : List Char) : List Char := replaceEach '\n' "\r\n" text

/-- The string with a carriage return before every line feed. -/
def widened (text : String) : String := String.ofList (widenLineEnds text.toList)

/-- There is nothing to widen in an empty text. -/
theorem widenLineEnds_nil : widenLineEnds [] = [] := rfl

/-- A line feed gets a carriage return before it. -/
theorem widenLineEnds_lineFeed (rest : List Char) :
    widenLineEnds ('\n' :: rest) = '\r' :: '\n' :: widenLineEnds rest := rfl

/-- Every other character stays alone. -/
theorem widenLineEnds_other {character : Char} (other : character ≠ '\n') (rest : List Char) :
    widenLineEnds (character :: rest) = character :: widenLineEnds rest := by
  simp [widenLineEnds, replaceEach, other]

/-- Only the empty text is widened to it. -/
theorem widenLineEnds_eq_nil_iff (text : List Char) : widenLineEnds text = [] ↔ text = [] := by
  cases text with
  | nil => exact iff_of_true rfl rfl
  | cons character rest =>
    by_cases lineFeed : character = '\n'
    · simp [lineFeed, widenLineEnds_lineFeed]
    · simp [widenLineEnds_other lineFeed]

/-- Something stands in a widened text if something stands in the text. -/
theorem exists_widenLineEnds_cons (first : Char) (others : List Char) :
    ∃ head tail, widenLineEnds (first :: others) = head :: tail := by
  apply List.exists_cons_of_ne_nil
  rw [Ne, widenLineEnds_eq_nil_iff]
  exact List.cons_ne_nil first others

/-- Only carriage returns are added. -/
theorem mem_widenLineEnds_iff {mark : Char} (other : mark ≠ '\r') (text : List Char) :
    mark ∈ widenLineEnds text ↔ mark ∈ text := by
  induction text with
  | nil => exact Iff.rfl
  | cons character rest inductionHypothesis =>
    by_cases lineFeed : character = '\n'
    · simp [lineFeed, widenLineEnds_lineFeed, other, inductionHypothesis]
    · simp [widenLineEnds_other lineFeed, inductionHypothesis]

/-- Blanks before a text are dropped with their carriage returns. -/
theorem dropBlanks_widenLineEnds (text : List Char) :
    dropBlanks (widenLineEnds text) = widenLineEnds (dropBlanks text) := by
  induction text with
  | nil => rfl
  | cons character rest inductionHypothesis =>
    by_cases lineFeed : character = '\n'
    · subst lineFeed
      exact inductionHypothesis
    · rw [widenLineEnds_other lineFeed]
      by_cases blank : isBlank character = true
      · rw [dropBlanks, dropBlanks, List.dropWhile_cons_of_pos blank,
          List.dropWhile_cons_of_pos blank]
        exact inductionHypothesis
      · rw [dropBlanks_cons_of_not_blank _ (Bool.eq_false_iff.mpr blank),
          dropBlanks_cons_of_not_blank _ (Bool.eq_false_iff.mpr blank),
          widenLineEnds_other lineFeed]

/-- Blanks behind a text are dropped with their carriage returns. -/
theorem dropTrailingBlanks_widenLineEnds (text : List Char) :
    dropTrailingBlanks (widenLineEnds text) = widenLineEnds (dropTrailingBlanks text) := by
  induction text with
  | nil => rfl
  | cons character rest inductionHypothesis =>
    by_cases lineFeed : character = '\n'
    · subst lineFeed
      rw [widenLineEnds_lineFeed, dropTrailingBlanks, dropTrailingBlanks, inductionHypothesis,
        dropTrailingBlanks]
      cases kept : dropTrailingBlanks rest with
      | nil => rfl
      | cons first others =>
        obtain ⟨head, tail, wide⟩ := exists_widenLineEnds_cons first others
        rw [widenLineEnds_lineFeed, wide]
    · rw [widenLineEnds_other lineFeed, dropTrailingBlanks, inductionHypothesis,
        dropTrailingBlanks]
      cases kept : dropTrailingBlanks rest with
      | nil =>
        by_cases blank : isBlank character = true
        · simp [blank, widenLineEnds, replaceEach]
        · simp [blank, widenLineEnds, replaceEach, lineFeed]
      | cons first others =>
        obtain ⟨head, tail, wide⟩ := exists_widenLineEnds_cons first others
        rw [widenLineEnds_other lineFeed, wide]

/-- A text is trimmed at the same characters. -/
theorem trim_widenLineEnds (text : List Char) :
    trim (widenLineEnds text) = widenLineEnds (trim text) := by
  rw [trim, dropBlanks_widenLineEnds, dropTrailingBlanks_widenLineEnds, trim]

/-- The blanks of the two ends may be dropped in either order. -/
theorem trim_eq_dropBlanks (text : List Char) :
    trim text = dropBlanks (dropTrailingBlanks text) := by
  rw [trim]
  induction text with
  | nil => rfl
  | cons character rest inductionHypothesis =>
    by_cases blank : isBlank character = true
    · have leading : dropBlanks (character :: rest) = dropBlanks rest :=
        List.dropWhile_cons_of_pos blank
      rw [leading, inductionHypothesis, dropTrailingBlanks]
      cases dropTrailingBlanks rest with
      | nil => simp [blank]
      | cons first others => exact (List.dropWhile_cons_of_pos blank).symm
    · have visible : isBlank character = false := Bool.eq_false_iff.mpr blank
      rw [dropBlanks_cons_of_not_blank rest visible, dropTrailingBlanks]
      cases dropTrailingBlanks rest with
      | nil => simp [visible, dropBlanks]
      | cons first others => rw [dropBlanks_cons_of_not_blank _ visible]

/-- Up to the blanks at their ends the lines are the same. A line is taken apart from its
beginning, so the statement is about the blanks behind it only. -/
theorem map_dropTrailingBlanks_split (text : List Char) :
    (split '\n' (widenLineEnds text)).map dropTrailingBlanks =
      (split '\n' text).map dropTrailingBlanks := by
  induction text with
  | nil => rfl
  | cons character rest inductionHypothesis =>
    obtain ⟨piece, pieces, split⟩ := List.exists_cons_of_ne_nil (split_ne_nil '\n' rest)
    obtain ⟨wide, others, wideSplit⟩ :=
      List.exists_cons_of_ne_nil (split_ne_nil '\n' (widenLineEnds rest))
    rw [split, wideSplit, List.map_cons, List.map_cons] at inductionHypothesis
    obtain ⟨first, behind⟩ := List.cons.inj inductionHypothesis
    by_cases lineFeed : character = '\n'
    · subst lineFeed
      rw [widenLineEnds_lineFeed]
      have blank : isBlank '\r' = true := by decide
      simp [Text.split, split, wideSplit, first, behind, dropTrailingBlanks, blank]
    · rw [widenLineEnds_other lineFeed]
      simp [Text.split, split, wideSplit, lineFeed, first, behind, dropTrailingBlanks]

/-- The normalized lines of a text do not depend on its line ends. -/
theorem normalizedLines_widened (text : String) :
    normalizedLines (widened text) = normalizedLines text := by
  have trimmed : (split '\n' (widenLineEnds text.toList)).map trim =
      (split '\n' text.toList).map trim := by
    have same := congrArg (List.map dropBlanks) (map_dropTrailingBlanks_split text.toList)
    rw [List.map_map, List.map_map] at same
    have inEitherOrder : trim = dropBlanks ∘ dropTrailingBlanks := funext trim_eq_dropBlanks
    rwa [inEitherOrder]
  rw [normalizedLines, widened, String.toList_ofList, trimmed, normalizedLines]

/-- A reader that answers alike on both line ends, up to how the answer is seen, and that finds
nothing at the line feed behind a carriage return. -/
structure IsBlind (reader : List Char → Option α) (view : α → α) : Prop where
  alike : ∀ text, reader (widenLineEnds text) = (reader text).map view
  lineFeed : ∀ rest, reader ('\n' :: rest) = none

/-- What goes on behind a blind reader is blind if it answers alike. -/
theorem IsBlind.bind {reader : List Char → Option α} {view : α → α} {next : α → Option β}
    {further : β → β} (blind : IsBlind reader view)
    (alike : ∀ found, next (view found) = (next found).map further) :
    IsBlind (fun text => (reader text).bind next) further where
  alike text := by
    rw [blind.alike]
    cases reader text with
    | none => rfl
    | some found => exact alike found
  lineFeed rest := by rw [blind.lineFeed, Option.bind_none]

/-- A blind reader finds something in both texts or in neither. -/
theorem IsBlind.isSome_search {reader : List Char → Option α} {view : α → α}
    (blind : IsBlind reader view) (text : List Char) :
    (search reader (widenLineEnds text)).isSome = (search reader text).isSome := by
  induction text with
  | nil => rfl
  | cons character rest inductionHypothesis =>
    have here := blind.alike (character :: rest)
    by_cases lineFeed : character = '\n'
    · subst lineFeed
      rw [blind.lineFeed, widenLineEnds_lineFeed] at here
      rw [widenLineEnds_lineFeed, search, here, search, blind.lineFeed, search, blind.lineFeed]
      exact inductionHypothesis
    · rw [widenLineEnds_other lineFeed] at here ⊢
      rw [search, search, here]
      cases reader (character :: rest) with
      | none => exact inductionHypothesis
      | some found => rfl

/-- The shortest run within a line, with what a blind reader finds behind it. The carriage
return would be part of the run, but behind it the line ends. -/
theorem IsBlind.shortest {next : List Char → Option α} {view : α → α} (blind : IsBlind next view) :
    IsBlind (fun text => shortest inLine text next) (Prod.map id view) where
  alike text := by
    induction text with
    | nil =>
      have here := blind.alike []
      rw [Text.shortest.eq_def, Text.shortest.eq_def]
      rw [widenLineEnds_nil] at here ⊢
      cases found : next [] with
      | none => rfl
      | some value =>
        rw [found] at here
        exact congrArg (fun seen => some ([], seen)) (Option.some.inj here)
    | cons character rest inductionHypothesis =>
      have here := blind.alike (character :: rest)
      by_cases lineFeed : character = '\n'
      · subst lineFeed
        rw [blind.lineFeed, widenLineEnds_lineFeed] at here
        simp [widenLineEnds_lineFeed, Text.shortest, here, blind.lineFeed, inLine]
      · rw [widenLineEnds_other lineFeed] at here ⊢
        rw [Text.shortest, here, Text.shortest]
        cases next (character :: rest) with
        | some found => rfl
        | none =>
          have inside : inLine character = true := by simpa [inLine] using lineFeed
          simp only [Option.map_none, inside, if_true, inductionHypothesis, Option.map_map]
          rfl
  lineFeed rest := by simp [Text.shortest, blind.lineFeed, inLine]

/-- A text that is looked for: it is not empty and holds no character of a line end. -/
def isUnbroken (literal : String) : Bool :=
  !literal.isEmpty && literal.toList.all fun character => character != '\n' && character != '\r'

/-- The characters of a text that is looked for. -/
theorem exists_unbroken {literal : String} (unbroken : isUnbroken literal = true) :
    ∃ first others, literal.toList = first :: others ∧
      ∀ character ∈ first :: others, character ≠ '\n' ∧ character ≠ '\r' := by
  simp only [isUnbroken, Bool.and_eq_true, List.all_eq_true, bne_iff_ne] at unbroken
  obtain ⟨nonempty, letters⟩ := unbroken
  cases whole : literal.toList with
  | nil =>
    rw [String.toList_eq_nil_iff.mp whole] at nonempty
    contradiction
  | cons first others => exact ⟨first, others, rfl, whole ▸ letters⟩

/-- A text goes on with a prefix where it begins with the first character of the prefix. -/
theorem isPrefixOf?_cons (first character : Char) (others rest : List Char) :
    (first :: others).isPrefixOf? (character :: rest) =
      if first == character then others.isPrefixOf? rest else none := rfl

/-- A prefix without line ends is one of both texts. -/
theorem isPrefixOf?_widenLineEnds {fixed : List Char}
    (letters : ∀ character ∈ fixed, character ≠ '\n' ∧ character ≠ '\r') (text : List Char) :
    fixed.isPrefixOf? (widenLineEnds text) = (fixed.isPrefixOf? text).map widenLineEnds := by
  induction fixed generalizing text with
  | nil => rfl
  | cons first others inductionHypothesis =>
    obtain ⟨noLineFeed, noReturn⟩ := letters first List.mem_cons_self
    cases text with
    | nil => rfl
    | cons character rest =>
      by_cases lineFeed : character = '\n'
      · simp [lineFeed, widenLineEnds_lineFeed, isPrefixOf?_cons, noLineFeed, noReturn]
      · have behind := inductionHypothesis
          (fun other inside => letters other (List.mem_cons_of_mem _ inside)) rest
        rw [widenLineEnds_other lineFeed, isPrefixOf?_cons, isPrefixOf?_cons, behind]
        split <;> rfl

/-- A text without line ends is found at the same places. -/
theorem isBlind_expect {literal : String} (unbroken : isUnbroken literal = true) :
    IsBlind (expect literal) widenLineEnds := by
  obtain ⟨first, others, whole, letters⟩ := exists_unbroken unbroken
  constructor
  · intro text
    rw [expect, expect, whole]
    exact isPrefixOf?_widenLineEnds letters text
  · intro rest
    have other : first ≠ '\n' := (letters first List.mem_cons_self).1
    simp [expect, whole, isPrefixOf?_cons, other]

/-- A character of a line end stands for no other letter. -/
theorem sameLetter_lineEnd {letter character : Char} (lineEnd : character = '\n' ∨ character = '\r')
    (other : letter ≠ character) : sameLetter letter character = false := by
  have lower : character.toLower = character := by
    rcases lineEnd with rfl | rfl <;> rfl
  have ascii : character.toNat < 0x80 := by
    rcases lineEnd with rfl | rfl <;> decide
  have foreign (far : Char) (beyond : 0x80 ≤ far.toNat) : (character == far) = false := by
    apply beq_false_of_ne
    rintro rfl
    omega
  rw [sameLetter, lower, beq_false_of_ne other.symm, foreign '\u0130' (by decide),
    foreign '\u0131' (by decide), foreign '\u017f' (by decide), foreign '\u212a' (by decide)]
  simp

/-- A keyword without line ends is read from both texts. -/
theorem readLetters_widenLineEnds {letters : List Char}
    (unbroken : ∀ letter ∈ letters, letter ≠ '\n' ∧ letter ≠ '\r') (text : List Char) :
    readLetters letters (widenLineEnds text) =
      (readLetters letters text).map (Prod.map id widenLineEnds) := by
  induction letters generalizing text with
  | nil => rfl
  | cons first others inductionHypothesis =>
    obtain ⟨noLineFeed, noReturn⟩ := unbroken first List.mem_cons_self
    cases text with
    | nil => rfl
    | cons character rest =>
      by_cases lineFeed : character = '\n'
      · simp [lineFeed, widenLineEnds_lineFeed, readLetters, sameLetter_lineEnd, noLineFeed,
          noReturn]
      · have behind := inductionHypothesis
          (fun other inside => unbroken other (List.mem_cons_of_mem _ inside)) rest
        rw [widenLineEnds_other lineFeed, readLetters, readLetters, behind]
        split
        · rw [Option.map_map, Option.map_map]
          rfl
        · rfl

/-- A keyword without line ends is found at the same places, in any case. -/
theorem isBlind_expectAnyCase {keyword : String} (unbroken : isUnbroken keyword = true) :
    IsBlind (expectAnyCase keyword) (Prod.map id widenLineEnds) := by
  obtain ⟨first, others, whole, letters⟩ := exists_unbroken unbroken
  constructor
  · intro text
    rw [expectAnyCase, expectAnyCase, whole]
    exact readLetters_widenLineEnds letters text
  · intro rest
    obtain ⟨noLineFeed, _⟩ := letters first List.mem_cons_self
    rw [expectAnyCase, whole, readLetters, sameLetter_lineEnd (Or.inl rfl) noLineFeed]
    rfl

end Drafting.Text
