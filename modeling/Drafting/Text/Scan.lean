import Drafting.Text.Blank
import Drafting.Text.Word

/-!
# Reading the pieces of a line

A line is read from left to right by small functions on its characters. Those
that can go only one way answer with what they read and what is left. Those that
may have to give characters back take what comes next as a function: the longest
run is tried first, or the shortest, and the first choice with which the rest of
the line can be read is kept, together with what was found there.

The main statements say what a run is when its end is forced: the longest run
followed by a character it does not accept is that run, and both searches find a
split exactly where one exists.
-/

namespace Drafting.Text

variable {α : Type}

/-- What follows a fixed text, if the line begins with it. -/
def expect (literal : String) (line : List Char) : Option (List Char) :=
  literal.toList.isPrefixOf? line

/-- A nonempty run, as long as possible, and what follows it. -/
def run? (accepts : Char → Bool) (line : List Char) : Option (List Char × List Char) :=
  match line.takeWhile accepts with
  | [] => none
  | run => some (run, line.dropWhile accepts)

/-- A nonempty word, as long as possible, and what follows it. -/
def word? (line : List Char) : Option (List Char × List Char) := run? isWord line

/-- What follows one or more blanks. -/
def skipBlanks? (line : List Char) : Option (List Char) :=
  match line with
  | character :: rest => if isBlank character then some (dropBlanks rest) else none
  | [] => none

/-- The characters a label may hold: all but the line feed. -/
def inLine (character : Char) : Bool := character != '\n'

/-- Nothing follows, or only the line feed that ends the line. -/
def atEnd (line : List Char) : Bool := line == [] || line == ['\n']

/-- The line is exactly this text, perhaps with its line feed. -/
def isLine (literal : String) (line : List Char) : Bool :=
  match expect literal line with
  | some rest => atEnd rest
  | none => false

/-- A run with one more character before it. -/
def grow (character : Char) (found : List Char × α) : List Char × α :=
  (character :: found.1, found.2)

/-- The leading run of accepted characters and what `next` finds behind it, trying
the longest run first and giving characters back one at a time until `next`
succeeds. -/
def longest (accepts : Char → Bool) (line : List Char) (next : List Char → Option α) :
    Option (List Char × α) :=
  match line with
  | [] => (next []).map ([], ·)
  | character :: rest =>
    if accepts character then
      match longest accepts rest next with
      | some found => some (grow character found)
      | none => (next (character :: rest)).map ([], ·)
    else (next (character :: rest)).map ([], ·)

/-- As `longest`, for a run of at least one character. -/
def longest1 (accepts : Char → Bool) (line : List Char) (next : List Char → Option α) :
    Option (List Char × α) :=
  match line with
  | [] => none
  | character :: rest =>
    if accepts character then (longest accepts rest next).map (grow character) else none

/-- The leading run of accepted characters and what `next` finds behind it, trying
the empty run first and taking characters one at a time until `next` succeeds. -/
def shortest (accepts : Char → Bool) (line : List Char) (next : List Char → Option α) :
    Option (List Char × α) :=
  match next line with
  | some found => some ([], found)
  | none =>
    match line with
    | [] => none
    | character :: rest =>
      if accepts character then (shortest accepts rest next).map (grow character) else none

/-- As `shortest`, for a run of at least one character. -/
def shortest1 (accepts : Char → Bool) (line : List Char) (next : List Char → Option α) :
    Option (List Char × α) :=
  match line with
  | [] => none
  | character :: rest =>
    if accepts character then (shortest accepts rest next).map (grow character) else none

/-- Takes one given character if it is there and the rest can then be read, and
otherwise goes on without it. -/
def optionally (expected : Char) (line : List Char) (next : List Char → Option α) : Option α :=
  match line with
  | [] => next []
  | character :: rest =>
    if character == expected then
      match next rest with
      | some found => some found
      | none => next line
    else next line

/-- One or more blanks, as many as possible, of which some may be given back. -/
def someBlanks (line : List Char) (next : List Char → Option α) : Option α :=
  (longest1 isBlank line next).map Prod.snd

/-- Any number of blanks, as many as possible, of which some may be given back. -/
def anyBlanks (line : List Char) (next : List Char → Option α) : Option α :=
  (longest isBlank line next).map Prod.snd

/-- All that is left of the line, which must not be nothing. A line feed may
stand only at its end and is not part of the answer. -/
def restOfLine? (line : List Char) : Option (List Char) := do
  let (text, rest) ← run? inLine line
  if atEnd rest then some text else none

/-- The label behind a colon that ends a line: the blanks before it are skipped,
but one of them is the label if nothing else is left. -/
def labelBehindColon? (line : List Char) : Option (List Char) := do
  let rest ← expect ":" (dropBlanks line)
  anyBlanks rest restOfLine?

/-- The end of a line, perhaps with a label behind a colon. An absent label is
empty. -/
def optionalLabel? (line : List Char) : Option (List Char) :=
  match labelBehindColon? line with
  | some label => some label
  | none => if atEnd line then some [] else none

/-- What a reader finds at the first position of the text where it succeeds. -/
def search (reader : List Char → Option α) : List Char → Option α
  | [] => reader []
  | character :: rest =>
    match reader (character :: rest) with
    | some found => some found
    | none => search reader rest

/-- What a reader that takes a whole word first finds at the first word of the text
where it succeeds. The flag tells whether the text begins inside a word. -/
def searchWords (reader : List Char → Option α) : Bool → List Char → Option α
  | _, [] => none
  | inWord, character :: rest =>
    let begins := !inWord && isWord character
    match if begins then reader (character :: rest) else none with
    | some found => some found
    | none => searchWords reader (isWord character) rest

/-- Whether one text occurs within another. -/
def occursIn (needle : String) (text : List Char) : Bool :=
  (search (expect needle) text).isSome

/-- What is found at a word was found there by the reader. -/
theorem searchWords_split {reader : List Char → Option α} {inWord : Bool} {line : List Char}
    {found : α} (read : searchWords reader inWord line = some found) :
    ∃ before rest, line = before ++ rest ∧ rest.head?.any isWord = true ∧
      reader rest = some found := by
  induction line generalizing inWord with
  | nil => simp [searchWords] at read
  | cons character tail inductionHypothesis =>
    have later (further : searchWords reader (isWord character) tail = some found) :
        ∃ before rest, character :: tail = before ++ rest ∧ rest.head?.any isWord = true ∧
          reader rest = some found := by
      obtain ⟨before, rest, same, begins, succeeds⟩ := inductionHypothesis further
      exact ⟨character :: before, rest, by simp [same], begins, succeeds⟩
    rw [searchWords] at read
    split at read
    · next here =>
      split at here
      · next begins =>
        have word : isWord character = true := by simp_all
        exact ⟨[], character :: tail, rfl, by simp [word], by simp_all⟩
      · simp at here
    · exact later read

/-- A longest run whose successor cannot be part of it is not shortened when the
rest can be read. -/
theorem longest_of_forced {accepts : Char → Bool} {run rest : List Char}
    {next : List Char → Option α} {found : α}
    (accepted : ∀ character ∈ run, accepts character = true)
    (ended : ∀ character ∈ rest.head?, accepts character = false)
    (succeeds : next rest = some found) :
    longest accepts (run ++ rest) next = some (run, found) := by
  induction run with
  | nil =>
    cases rest with
    | nil => simp [longest, succeeds]
    | cons character tail => simp [longest, ended character (by simp), succeeds]
  | cons character tail inductionHypothesis =>
    have head := accepted character (by simp)
    have shorter := inductionHypothesis fun other inTail => accepted other (by simp [inTail])
    simp [longest, head, shorter, grow]

/-- The search for a longest run finds only splits of the line. -/
theorem longest_split {accepts : Char → Bool} {line run : List Char}
    {next : List Char → Option α} {found : α}
    (read : longest accepts line next = some (run, found)) :
    ∃ rest, line = run ++ rest ∧ (∀ character ∈ run, accepts character = true) ∧
      next rest = some found := by
  induction line generalizing run with
  | nil =>
    simp only [longest, Option.map_eq_some_iff, Prod.mk.injEq] at read
    obtain ⟨_, succeeds, rfl, rfl⟩ := read
    exact ⟨[], rfl, by simp, succeeds⟩
  | cons character tail inductionHypothesis =>
    have here (atStart :
        (next (character :: tail)).map (([] : List Char), ·) = some (run, found)) :
        ∃ rest, character :: tail = run ++ rest ∧
          (∀ character ∈ run, accepts character = true) ∧ next rest = some found := by
      simp only [Option.map_eq_some_iff, Prod.mk.injEq] at atStart
      obtain ⟨_, succeeds, rfl, rfl⟩ := atStart
      exact ⟨character :: tail, rfl, by simp, succeeds⟩
    rw [longest] at read
    split at read
    · next head =>
      split at read
      · next later longer =>
        obtain ⟨shorter, _⟩ := later
        simp only [grow, Option.some.injEq, Prod.mk.injEq] at read
        obtain ⟨rfl, rfl⟩ := read
        obtain ⟨rest, same, accepted, succeeds⟩ := inductionHypothesis longer
        exact ⟨rest, by simp [same], by simp_all, succeeds⟩
      · exact here read
    · exact here read

/-- A longest run is found whenever some split can be read on. -/
theorem longest_isSome {accepts : Char → Bool} {run rest : List Char}
    {next : List Char → Option α}
    (accepted : ∀ character ∈ run, accepts character = true)
    (succeeds : (next rest).isSome) :
    (longest accepts (run ++ rest) next).isSome := by
  induction run with
  | nil =>
    cases rest with
    | nil => simpa [longest] using succeeds
    | cons character tail =>
      simp only [List.nil_append, longest]
      split
      · split
        · rfl
        · simpa using succeeds
      · simpa using succeeds
  | cons character tail inductionHypothesis =>
    have shorter := inductionHypothesis fun other inTail => accepted other (by simp [inTail])
    obtain ⟨found, longer⟩ := Option.isSome_iff_exists.mp shorter
    simp [longest, accepted character (by simp), longer]

end Drafting.Text
