/-!
# Escaped attribute values

The values of attributes are written between quotation marks. Five characters
have a meaning there and are written as named entities; all others stand for
themselves. Each of the five is replaced in a pass of its own over the whole
text. The ampersand comes first, since every entity begins with one.

The main statement is that the passes do not disturb each other: the written
form of a text is the concatenation of the written forms of its characters.
-/

namespace Drafting.Text

/-- The characters with a meaning in markup and the entities that stand for
them, in the order of the passes. -/
def entities : List (Char × String) :=
  [ ('&', "&amp;"), ('<', "&lt;"), ('>', "&gt;"), ('\x22', "&quot;"), ('\x27', "&apos;") ]

/-- One pass: the text with an entity in place of every occurrence of a
character. -/
def replaceEach (marked : Char) (entity : String) (text : List Char) : List Char :=
  text.flatMap fun character => if character == marked then entity.toList else [character]

/-- The written form of a text. -/
def escapeCharacters (text : List Char) : List Char :=
  entities.foldl (fun written (marked, entity) => replaceEach marked entity written) text

/-- The written form of a string. -/
def escape (text : String) : String := String.ofList (escapeCharacters text.toList)

/-- The written form of one character. -/
def escapeCharacter (character : Char) : List Char :=
  match entities.lookup character with
  | some entity => entity.toList
  | none => [character]

/-- A pass treats the parts of a text on their own. -/
theorem replaceEach_append (marked : Char) (entity : String) (first second : List Char) :
    replaceEach marked entity (first ++ second) =
      replaceEach marked entity first ++ replaceEach marked entity second := by
  simp [replaceEach]

/-- A pass leaves every other character alone. -/
theorem replaceEach_other {marked character : Char} (entity : String)
    (different : character ≠ marked) : replaceEach marked entity [character] = [character] := by
  simp [replaceEach, different]

/-- The passes together treat the parts of a text on their own. -/
theorem escapeCharacters_append (first second : List Char) :
    escapeCharacters (first ++ second) = escapeCharacters first ++ escapeCharacters second := by
  simp [escapeCharacters, entities, replaceEach_append]

/-- The passes turn one character into its written form: no pass finds anything in
an entity that an earlier one has written. -/
theorem escapeCharacters_singleton (character : Char) :
    escapeCharacters [character] = escapeCharacter character := by
  by_cases ampersand : character = '&'
  · subst ampersand; decide
  by_cases less : character = '<'
  · subst less; decide
  by_cases greater : character = '>'
  · subst greater; decide
  by_cases quotation : character = '\x22'
  · subst quotation; decide
  by_cases apostrophe : character = '\x27'
  · subst apostrophe; decide
  have written : escapeCharacter character = [character] := by
    simp [escapeCharacter, entities, List.lookup_cons, beq_false_of_ne ampersand,
      beq_false_of_ne less, beq_false_of_ne greater, beq_false_of_ne quotation,
      beq_false_of_ne apostrophe]
  simp [escapeCharacters, entities, replaceEach_other, written, ampersand, less, greater,
    quotation, apostrophe]

/-- The characters of a text are escaped one by one. -/
theorem escapeCharacters_eq_flatMap (text : List Char) :
    escapeCharacters text = text.flatMap escapeCharacter := by
  induction text with
  | nil => rfl
  | cons character rest inductionHypothesis =>
    rw [← List.singleton_append, escapeCharacters_append, escapeCharacters_singleton,
      inductionHypothesis]
    rfl

end Drafting.Text
