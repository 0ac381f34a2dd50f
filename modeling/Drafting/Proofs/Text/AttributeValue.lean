import Drafting.Note
import Drafting.Proofs.Text.Unescape
import Drafting.Text.Hex

/-!
# Attribute values as documents are read

A reader of documents does more to the value of an attribute than to replace five entities. It takes
a tab, a line feed or a carriage return for a blank, and only then replaces references, which may
name a character or give its number. A text with one of these three characters is therefore read
back only if they are written as references, which escaping does not do.

The main statement tells what is read of any escaped text, which texts are read back unchanged, and
that no note of more than one line is among them. It makes no difference to the last two whether the
reader unifies the line ends of the document before.
-/

namespace Drafting.Text

/-- The characters that a document may hold. Most control characters and two characters without a
meaning are not among them. -/
def isDocumentCharacter (character : Char) : Bool :=
  let code := character.toNat
  code == 0x9 || code == 0xA || code == 0xD || (0x20 ≤ code && code ≤ 0xD7FF) ||
    (0xE000 ≤ code && code ≤ 0xFFFD) || (0x10000 ≤ code && code ≤ 0x10FFFF)

/-- The characters that are read as blanks where they stand for themselves. -/
def isLayout (character : Char) : Bool :=
  character == '\t' || character == '\n' || character == '\r'

/-- What a character is read as where it stands for itself. -/
def flatten (character : Char) : Char := if isLayout character then ' ' else character

/-- The characters that are read as they were once a text has been escaped. -/
def isKept (character : Char) : Bool := isDocumentCharacter character && !isLayout character

/-- The characters that may stand in a value between quotation marks. -/
def isValueCharacter (character : Char) : Bool :=
  isDocumentCharacter character && character != '<' && character != '\x22'

/-- The number that is given by digits of a base, which is sixteen at most. -/
def numberOf? (base : Nat) (digits : List Char) : Option Nat :=
  if digits.isEmpty then none
  else
    digits.foldlM
      (fun number digit => do
        let value ← hexValue? digit
        if value < base then return number * base + value else none)
      0

/-- The character with a given number, if a document may hold it. -/
def characterOf? (number : Nat) : Option Char :=
  if isDocumentCharacter (Char.ofNat number) then some (Char.ofNat number) else none

/-- The characters that have names, by their names. -/
def namedCharacters : List (String × Char) :=
  [("amp", '&'), ("lt", '<'), ("gt", '>'), ("quot", '\x22'), ("apos", '\x27')]

/-- The character that a reference stands for, which is given by a name, or by its number behind a
number sign. -/
def referenced? : List Char → Option Char
  | '#' :: 'x' :: digits => (numberOf? 16 digits).bind characterOf?
  | '#' :: digits => (numberOf? 10 digits).bind characterOf?
  | name => namedCharacters.lookup (String.ofList name)

/-- Replaces references, given what was read of one that has begun. -/
def expandBehind? : Option (List Char) → List Char → Option (List Char)
  | none, [] => some []
  | some _, [] => none
  | none, character :: rest =>
    if character = '&' then expandBehind? (some []) rest
    else (expandBehind? none rest).map (character :: ·)
  | some name, character :: rest =>
    if character = ';' then do
      let own ← referenced? name
      let others ← expandBehind? none rest
      return own :: others
    else expandBehind? (some (name ++ [character])) rest

/-- Reads the value of an attribute, if it may stand between quotation marks and all its references
stand for characters. -/
def readValue? (written : List Char) : Option (List Char) :=
  if written.all isValueCharacter then expandBehind? none (written.map flatten) else none

/-- No character is read as a tab or a line end that stands for itself. -/
theorem isLayout_flatten (character : Char) : isLayout (flatten character) = false := by
  rw [flatten]
  split
  next => decide
  next plain => simpa using plain

/-- A character is read as itself exactly if it is no tab and no line end. -/
theorem flatten_eq_self_iff (character : Char) :
    flatten character = character ↔ isLayout character = false := by
  constructor
  · intro same
    rw [← same]
    exact isLayout_flatten character
  · intro plain
    simp [flatten, plain]

/-- A text has no tabs and no line ends exactly if replacing them by blanks does not change it. -/
theorem map_flatten_eq_self_iff (text : List Char) :
    text.map flatten = text ↔ ∀ character ∈ text, isLayout character = false := by
  have pointwise : text.map flatten = text.map id ↔
      ∀ character ∈ text, flatten character = character := List.map_inj_left
  simpa only [List.map_id, flatten_eq_self_iff] using pointwise

/-- An entity is a reference by name to the character it stands for, and it holds nothing that is
read differently. -/
theorem entity_reference : ∀ pair ∈ entities, isKept pair.1 = true ∧
    let name := pair.2.toList.tail.dropLast
    pair.2.toList = '&' :: name ++ [';'] ∧ pair.2.toList.all isValueCharacter = true ∧
      pair.2.toList.all (!isLayout ·) = true ∧ ';' ∉ name ∧ referenced? name = some pair.1 := by
  decide

/-- A character is written as itself, or as a reference that stands for it and holds nothing that
is read differently. -/
theorem escapeCharacter_reference (character : Char) :
    (character ≠ '&' ∧ character ≠ '<' ∧ character ≠ '\x22' ∧
      escapeCharacter character = [character]) ∨
    isKept character = true ∧
      ∃ name : List Char, escapeCharacter character = '&' :: name ++ [';'] ∧
        (escapeCharacter character).all isValueCharacter = true ∧
        (escapeCharacter character).all (!isLayout ·) = true ∧
        ';' ∉ name ∧ referenced? name = some character := by
  rcases escapeCharacter_cases character with ⟨entity, known, written⟩ | ⟨plain, itself⟩
  · obtain ⟨kept, reference⟩ := entity_reference _ known
    exact .inr ⟨kept, entity.toList.tail.dropLast, by rw [written]; exact reference⟩
  · have other : ∀ marked ∈ entities.map Prod.fst, character ≠ marked := fun marked member same =>
      plain (same ▸ member)
    exact .inl ⟨other _ (by decide), other _ (by decide), other _ (by decide), itself⟩

/-- The written form of a character may stand in a value exactly if a document may hold the
character. -/
theorem all_escapeCharacter (character : Char) :
    (escapeCharacter character).all isValueCharacter = isDocumentCharacter character := by
  rcases escapeCharacter_reference character with
    ⟨_, less, quotation, itself⟩ | ⟨kept, _, _, allowed, _⟩
  · rw [itself, List.all_cons, List.all_nil, Bool.and_true, isValueCharacter,
      bne_iff_ne.mpr less, bne_iff_ne.mpr quotation, Bool.and_true, Bool.and_true]
  · rw [allowed, (Bool.and_eq_true_iff.mp kept).1]

/-- Escaping brings no character into a text that a document may not hold, and none out of it. -/
theorem all_escapeCharacters (text : List Char) :
    (escapeCharacters text).all isValueCharacter = text.all isDocumentCharacter := by
  induction text with
  | nil => rfl
  | cons character rest inductionHypothesis =>
    rw [escapeCharacters_cons, List.all_append, all_escapeCharacter, inductionHypothesis,
      List.all_cons]

/-- A character that is no ampersand stands for itself. -/
theorem expandBehind?_cons {character : Char} (rest : List Char) (plain : character ≠ '&') :
    expandBehind? none (character :: rest) =
      (expandBehind? none rest).map (character :: ·) := by
  rw [expandBehind?, if_neg plain]

/-- No character is read as an ampersand that is none. -/
theorem flatten_ne_ampersand {character : Char} (plain : character ≠ '&') :
    flatten character ≠ '&' := by
  rw [flatten]
  split
  · decide
  · exact plain

/-- The name of a reference reaches up to its semicolon. -/
theorem expandBehind?_name (before name rest : List Char) (inside : ';' ∉ name) :
    expandBehind? (some before) (name ++ ';' :: rest) =
      (referenced? (before ++ name)).bind fun own =>
        (expandBehind? none rest).map (own :: ·) := by
  induction name generalizing before with
  | nil =>
    rw [List.nil_append, expandBehind?, if_pos rfl, List.append_nil]
    cases referenced? before with
    | none => rfl
    | some own => cases expandBehind? none rest <;> rfl
  | cons character others inductionHypothesis =>
    obtain ⟨different, later⟩ := List.ne_and_not_mem_of_not_mem_cons inside
    rw [List.cons_append, expandBehind?, if_neg (Ne.symm different), inductionHypothesis _ later,
      List.append_assoc, List.singleton_append]

/-- A reference is read as the character it stands for. -/
theorem expandBehind?_reference {name : List Char} {character : Char} (rest : List Char)
    (inside : ';' ∉ name) (stands : referenced? name = some character) :
    expandBehind? none ('&' :: name ++ ';' :: rest) =
      (expandBehind? none rest).map (character :: ·) := by
  rw [List.cons_append, expandBehind?, if_pos rfl, expandBehind?_name [] name rest inside,
    List.nil_append, stands, Option.bind_some]

/-- The written form of a character is read as that character, or as a blank. -/
theorem expandBehind?_escapeCharacter (character : Char) (rest : List Char) :
    expandBehind? none ((escapeCharacter character).map flatten ++ rest) =
      (expandBehind? none rest).map (flatten character :: ·) := by
  rcases escapeCharacter_reference character with
    ⟨plain, _, _, itself⟩ | ⟨kept, name, written, _, visible, inside, stands⟩
  · rw [itself, List.map_singleton, List.singleton_append,
      expandBehind?_cons rest (flatten_ne_ampersand plain)]
  · have self : flatten character = character := by
      simpa [flatten_eq_self_iff, isKept] using (Bool.and_eq_true_iff.mp kept).2
    have unchanged : (escapeCharacter character).map flatten = escapeCharacter character :=
      (map_flatten_eq_self_iff _).mpr (by simpa using visible)
    rw [unchanged, written, List.append_assoc, List.singleton_append,
      expandBehind?_reference rest inside stands, self]

/-- An escaped text is read as the text with blanks for its tabs and line ends. -/
theorem expandBehind?_escapeCharacters (text : List Char) :
    expandBehind? none ((escapeCharacters text).map flatten) = some (text.map flatten) := by
  induction text with
  | nil => rfl
  | cons character rest inductionHypothesis =>
    rw [escapeCharacters_cons, List.map_append, expandBehind?_escapeCharacter, inductionHypothesis,
      Option.map_some, List.map_cons]

/-- What is read of an escaped text. -/
theorem readValue?_escapeCharacters (text : List Char) :
    readValue? (escapeCharacters text) =
      if text.all isDocumentCharacter then some (text.map flatten) else none := by
  rw [readValue?, all_escapeCharacters, expandBehind?_escapeCharacters]

/-- An escaped text is read as it was exactly if all its characters are kept. -/
theorem readValue?_escapeCharacters_eq_iff (text : List Char) :
    readValue? (escapeCharacters text) = some text ↔ text.all isKept = true := by
  rw [readValue?_escapeCharacters]
  have kept : text.all isKept = true ↔
      text.all isDocumentCharacter = true ∧ text.map flatten = text := by
    simp [map_flatten_eq_self_iff, isKept, forall_and]
  rw [kept]
  split
  next allowed => simp [allowed]
  next refused => simp [refused]

/-- A carriage return that stands alone becomes a line feed. -/
theorem unifyLineEnds_alone {rest : List Char} (alone : rest.head? ≠ some '\n') :
    unifyLineEnds ('\r' :: rest) = '\n' :: unifyLineEnds rest := by
  cases rest with
  | nil => rfl
  | cons character others =>
    have different : character ≠ '\n' := by simpa using alone
    rw [unifyLineEnds]
    rintro later same
    exact different (List.cons.inj same).1

/-- A word without carriage returns stays as it is. -/
theorem unifyLineEnds_append {word : List Char} (rest : List Char) (absent : '\r' ∉ word) :
    unifyLineEnds (word ++ rest) = word ++ unifyLineEnds rest := by
  induction word with
  | nil => rfl
  | cons character others inductionHypothesis =>
    obtain ⟨different, later⟩ := List.ne_and_not_mem_of_not_mem_cons absent
    rw [List.cons_append, unifyLineEnds, inductionHypothesis later, List.cons_append]
    · rintro _ same
      exact absurd same.symm different
    · rintro same
      exact absurd same.symm different

/-- A text without carriage returns stays as it is. -/
theorem unifyLineEnds_eq_self {text : List Char} (absent : '\r' ∉ text) :
    unifyLineEnds text = text := by
  simpa [unifyLineEnds] using unifyLineEnds_append [] absent

/-- Only a carriage return is written with one. -/
theorem return_not_mem_escapeCharacter {character : Char} (other : character ≠ '\r') :
    '\r' ∉ escapeCharacter character := by
  rcases escapeCharacter_reference character with
    ⟨_, _, _, itself⟩ | ⟨_, _, _, _, visible, _⟩
  · simpa [itself] using Ne.symm other
  · intro inside
    exact absurd (List.all_eq_true.mp visible _ inside) (by decide)

/-- The written form of a text begins with a line feed only if the text does. -/
theorem head?_escapeCharacters_ne {text : List Char} (other : text.head? ≠ some '\n') :
    (escapeCharacters text).head? ≠ some '\n' := by
  cases text with
  | nil => decide
  | cons character rest =>
    rw [escapeCharacters_cons]
    rcases escapeCharacter_reference character with
      ⟨_, _, _, itself⟩ | ⟨_, _, written, _⟩
    · simpa [itself] using other
    · simp [written]

/-- It is the same to unify the line ends of a text before it is escaped and afterwards. -/
theorem unifyLineEnds_escapeCharacters (text : List Char) :
    unifyLineEnds (escapeCharacters text) = escapeCharacters (unifyLineEnds text) := by
  have lineFeed : escapeCharacter '\n' = ['\n'] := by decide
  have back : escapeCharacter '\r' = ['\r'] := by decide
  fun_induction unifyLineEnds text with
  | case1 => rfl
  | case2 rest inductionHypothesis =>
    simp [escapeCharacters_cons, lineFeed, back, unifyLineEnds, inductionHypothesis]
  | case3 rest alone inductionHypothesis =>
    have first : rest.head? ≠ some '\n' := by
      intro begins
      obtain ⟨others, whole⟩ := List.head?_eq_some_iff.mp begins
      exact alone others whole
    rw [escapeCharacters_cons, back, List.singleton_append,
      unifyLineEnds_alone (head?_escapeCharacters_ne first), inductionHypothesis,
      escapeCharacters_cons, lineFeed, List.singleton_append]
  | case4 character rest _ other inductionHypothesis =>
    rw [escapeCharacters_cons, unifyLineEnds_append _ (return_not_mem_escapeCharacter other),
      inductionHypothesis, escapeCharacters_cons]

/-- Unifying line ends first helps no text to be read as it was, and harms none. -/
theorem readValue?_unifyLineEnds_eq_iff (text : List Char) :
    readValue? (unifyLineEnds (escapeCharacters text)) = some text ↔ text.all isKept = true := by
  rw [← readValue?_escapeCharacters_eq_iff, unifyLineEnds_escapeCharacters]
  suffices unchanged : ∀ before, readValue? (escapeCharacters before) = some text → '\r' ∉ text by
    constructor
    · intro read
      rwa [unifyLineEnds_eq_self (unchanged _ read)] at read
    · intro read
      rwa [unifyLineEnds_eq_self (unchanged _ read)]
  -- What is read of an escaped text are images under `flatten`, and a carriage return is none.
  intro before read
  rw [readValue?_escapeCharacters] at read
  split at read
  next =>
    rw [← Option.some.inj read]
    intro member
    obtain ⟨character, _, image⟩ := List.mem_map.mp member
    have plain := isLayout_flatten character
    rw [image] at plain
    exact absurd plain (by decide)
  next => cases read

/-- The text of a note is kept exactly if the note has no second line and its only line is kept. -/
theorem all_isKept_noteText (note : Note) :
    note.text.toList.all isKept = true ↔
      note.lines.length ≤ 1 ∧ ∀ line ∈ note.lines, line.toList.all isKept = true := by
  rw [Note.text, joinStrings, String.toList_ofList]
  match note.lines with
  | [] => simp [join]
  | [line] => simp [join]
  | first :: second :: others =>
    refine iff_of_false ?_ (by simp)
    intro kept
    have lineFeed : '\n' ∈ join "\n".toList ((first :: second :: others).map String.toList) := by
      simp [join_cons_eq_flatMap]
    exact absurd (List.all_eq_true.mp kept _ lineFeed) (by decide)

/-- An escaped text is read with a blank for each tab and each line end, if it may stand in a
document. So it is read as it was exactly if it has none of them, whether or not the line ends of
the document were unified before, and the text of a note if it is a single such line. -/
theorem value_read_back_iff (text : String) (note : Note) :
    readValue? (escape text).toList =
      (if text.toList.all isDocumentCharacter then some (text.toList.map flatten) else none) ∧
    (readValue? (escape text).toList = some text.toList ↔ text.toList.all isKept = true) ∧
    (readValue? (unifyLineEnds (escape text).toList) = some text.toList ↔
      text.toList.all isKept = true) ∧
    (readValue? (escape note.text).toList = some note.text.toList ↔
      note.lines.length ≤ 1 ∧ ∀ line ∈ note.lines, line.toList.all isKept = true) := by
  have written (string : String) : (escape string).toList = escapeCharacters string.toList :=
    String.toList_ofList
  rw [written, written]
  refine ⟨readValue?_escapeCharacters _, readValue?_escapeCharacters_eq_iff _,
    readValue?_unifyLineEnds_eq_iff _, ?_⟩
  rw [readValue?_escapeCharacters_eq_iff, all_isKept_noteText]

/-- Two lines of a note are read as one, while a reference keeps them apart. -/
theorem note_lines_read_as_one :
    (((Note.start "").add "one").add "two").text = "one\ntwo" ∧
    "one\ntwo".toList.all isDocumentCharacter = true ∧
    readValue? (escape "one\ntwo").toList = some "one two".toList ∧
    readValue? (escape "one\ntwo").toList ≠ some "one\ntwo".toList ∧
    readValue? "one&#10;two".toList = some "one\ntwo".toList := by
  decide

end Drafting.Text
