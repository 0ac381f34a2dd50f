import Drafting.EntityDiagram.Reader
import Drafting.Proofs.Text.Scan

/-!
# Printed schemas

A schema of tables and ties between them is printed with one line for each column and each
tie, and with a head and a closing brace around the columns of a table. All its names are
words.

The main statements say how each printed line is read, if it is read at all: no rule that
is tried before the right one accepts it. Lines that begin with a directive are left out
before that, and a name may begin with one.
-/

namespace Drafting.EntityDiagram

open Text

/-- A column: its name, perhaps its type, and whether it belongs to the primary key. -/
structure Column where
  name : Word
  type : Option Word
  isKey : Bool

/-- A table with its columns. -/
structure Table where
  name : Word
  columns : List Column

/-- A labelled tie between the tables of two names. -/
structure Tie where
  source : Word
  target : Word
  label : Word

namespace Column

/-- What is printed behind the name of a column. -/
def typeCharacters (column : Column) : List Char :=
  match column.type with
  | some type => " : ".toList ++ type.characters
  | none => []

/-- The printed characters of a column. -/
def characters (column : Column) : List Char :=
  (if column.isKey then "* ".toList else []) ++ (column.name.characters ++ column.typeCharacters)

/-- The line of a column. -/
def line (column : Column) : String := String.ofList column.characters

/-- The characters in the line of a column. -/
theorem toList_line (column : Column) : column.line.toList = column.characters :=
  String.toList_ofList

/-- The attribute that a column stands for. -/
def entityAttribute (column : Column) : EntityAttribute where
  name := column.name.text
  type := (column.type.map Word.text).getD ""
  isPrimaryKey := column.isKey

end Column

namespace Table

/-- The line that begins a table. -/
def head (table : Table) : String := "entity " ++ table.name.text ++ " \x7b"

/-- The characters in the line that begins a table. -/
theorem toList_head (table : Table) :
    table.head.toList = "entity ".toList ++ (table.name.characters ++ " \x7b".toList) := by
  rw [head, String.toList_append, String.toList_append, table.name.toList_text,
    List.append_assoc]

/-- The lines of a table. -/
def lines (table : Table) : List String :=
  table.head :: (table.columns.map Column.line ++ ["\x7d"])

/-- The entity that a table stands for, with its number. -/
def entity (table : Table) (number : Nat) : Entity where
  id := number
  name := table.name.text
  label := table.name.text
  attributes := table.columns.map Column.entityAttribute

end Table

namespace Tie

/-- What is printed behind the stroke of a tie. -/
def behindStroke (tie : Tie) : List Char :=
  " ".toList ++ (tie.target.characters ++ (" : ".toList ++ tie.label.characters))

/-- What is printed behind the first name of a tie. -/
def behindSource (tie : Tie) : List Char := " ||--o\x7b".toList ++ tie.behindStroke

/-- The line of a tie. -/
def line (tie : Tie) : String := String.ofList (tie.source.characters ++ tie.behindSource)

/-- The characters in the line of a tie. -/
theorem toList_line (tie : Tie) : tie.line.toList = tie.source.characters ++ tie.behindSource :=
  String.toList_ofList

/-- The relationship that a tie stands for. -/
def relationship (tie : Tie) : Relationship where
  source := tie.source.text
  target := tie.target.text
  label := tie.label.text

end Tie

/-- Every word may stand as the name of an entity. -/
theorem isNameCharacter_of_word (word : Word) :
    ∀ character ∈ word.characters, isNameCharacter character = true := by
  intro character member
  have notQuotation : character ≠ '\x22' := word.ne_of_mem (by decide) member
  have notBrace : character ≠ '\x7b' := word.ne_of_mem (by decide) member
  simp [isNameCharacter, notQuotation, notBrace, isBlank_of_isWord (word.letters _ member)]

/-- What may follow the label of a head: a quotation mark, a name behind `as`, the end. -/
def behindLabel? (line : List Char) : Option (Option (List Char)) :=
  optionally '\x22' line fun rest => headBehindLabel? (dropBlanks rest)

/-- Behind the keyword, a head is a label with what may follow it. -/
theorem head?_eq (rest : List Char) :
    head? ("entity ".toList ++ rest) =
      (optionally '\x22' (dropBlanks rest) fun rest =>
        longest1 isNameCharacter rest behindLabel?).bind
          fun found => some (found.2.getD found.1, found.1) := rfl

/-- The line that begins a table is read with its name, which is also its label. -/
theorem head?_word (name : Word) :
    head? ("entity ".toList ++ (name.characters ++ " \x7b".toList)) =
      some (name.characters, name.characters) := by
  have label : longest1 isNameCharacter (name.characters ++ " \x7b".toList) behindLabel? =
      some (name.characters, none) :=
    longest1_of_forced name.nonempty (isNameCharacter_of_word name)
      (refused_of_head? rfl (by decide)) rfl
  rw [head?_eq, name.dropBlanks_append, name.optionally_append (by decide), label]
  rfl

/-- The printed type of a column does not go on with a word character. -/
theorem Column.typeCharacters_ended (column : Column) :
    ∀ character ∈ column.typeCharacters.head?, isWord character = false := by
  rw [typeCharacters]
  cases column.type with
  | none => simp
  | some type => exact refused_of_head? rfl (by decide)

/-- A word is no end of a head: a name behind `as` would need a blank. -/
theorem headBehindLabel?_word (word : Word) : headBehindLabel? word.characters = none := by
  have ends : endOfHead? word.characters = none := by
    have kept : dropBlanks word.characters = word.characters := word.dropBlanks_characters
    have passed : ∀ next : List Char → Option Unit,
        optionally '\x7b' word.characters next = next word.characters := by
      intro next
      have foreign : isWord '\x7b' = false := by decide
      have notTaken := word.optionally_append foreign [] next
      rwa [List.append_nil] at notTaken
    have lineFeed : '\n' ∉ word.characters := word.not_mem (by decide)
    have notEnd : atEnd word.characters = false := by
      have other : word.characters ≠ ['\n'] := fun same => lineFeed (by simp [same])
      simp [atEnd, word.nonempty, other]
    rw [endOfHead?, kept, passed, notEnd]
    rfl
  have named : ∀ rest, expect "as" word.characters = some rest → skipBlanks? rest = none := by
    intro rest found
    have split := List.isPrefixOf?_eq_some_iff_append_eq.mp found
    cases rest with
    | nil => rfl
    | cons character others =>
      have letter := word.letters character (by rw [← split]; simp)
      simp [skipBlanks?, isBlank_of_isWord letter]
  rw [headBehindLabel?, ends]
  cases found : expect "as" word.characters with
  | none => simp
  | some rest => simp [named rest found]

/-- A line that begins with a name is no head of a table unless the name is the keyword and
what follows it could follow the keyword. -/
theorem head?_of_name (name : Word) {rest : List Char}
    (ended : ∀ character ∈ rest.head?, isWord character = false)
    (plain : head? ("entity".toList ++ rest) = none) :
    head? (name.characters ++ rest) = none := by
  cases found : expect "entity" (name.characters ++ rest) with
  | none => simp [head?, found]
  | some behind =>
    have split := List.isPrefixOf?_eq_some_iff_append_eq.mp found
    have letters : ∀ character ∈ "entity".toList, isWord character = true :=
      List.all_eq_true.mp (by decide)
    obtain ⟨more, whole⟩ := name.prefix_of_prefix_append letters ended ⟨behind, split⟩
    cases more with
    | nil => rwa [← whole, List.append_nil]
    | cons character others =>
      have letter : isWord character = true := name.letters character (by rw [← whole]; simp)
      have goesOn : behind = character :: (others ++ rest) := by
        rw [← whole, List.append_assoc] at split
        exact List.append_cancel_left split
      simp [head?, found, goesOn, skipBlanks?, isBlank_of_isWord letter]

/-- A printed column is no head of a table. -/
theorem head?_column (column : Column) : head? column.characters = none := by
  rw [Column.characters]
  split
  · rfl
  · refine head?_of_name column.name column.typeCharacters_ended ?_
    rw [Column.typeCharacters]
    cases column.type with
    | none => rfl
    | some type =>
      -- the colon could be the name of a table, but its type ends no head
      have begins : head? ("entity".toList ++ (" : ".toList ++ type.characters)) =
          ((((headBehindLabel? (dropBlanks type.characters)).map (([] : List Char), ·)).map
            (grow ':')).bind fun found => some (found.2.getD found.1, found.1)) := rfl
      rw [begins, type.dropBlanks_characters, headBehindLabel?_word]
      rfl

/-- What is printed behind the first name of a tie begins with a blank. -/
theorem Tie.behindSource_ended (tie : Tie) :
    ∀ character ∈ tie.behindSource.head?, isWord character = false :=
  refused_of_head? rfl (by decide)

/-- A printed tie is no head of a table: no part of its stroke is a label with the end of a
head behind it. -/
theorem head?_tie (tie : Tie) : head? (tie.source.characters ++ tie.behindSource) = none := by
  refine head?_of_name tie.source tie.behindSource_ended ?_
  have stroke : ∀ rest, longest1 isNameCharacter ("||--o\x7b ".toList ++ rest) behindLabel? =
      none := fun _ => rfl
  have unread : ∀ rest, head? ("entity ".toList ++ ("||--o\x7b ".toList ++ rest)) = none := by
    intro rest
    have begins : head? ("entity ".toList ++ ("||--o\x7b ".toList ++ rest)) =
        (longest1 isNameCharacter ("||--o\x7b ".toList ++ rest) behindLabel?).bind
          fun found => some (found.2.getD found.1, found.1) := rfl
    rw [begins, stroke, Option.bind_none]
  exact unread _

/-- A character that stands neither in a word nor between words is not printed in a
column. -/
theorem Column.not_mem_characters (column : Column) {mark : Char} (foreign : isWord mark = false)
    (noKey : mark ∉ "* ".toList) (noType : mark ∉ " : ".toList) :
    mark ∉ column.characters := by
  have inName := column.name.not_mem foreign
  have inType : mark ∉ column.typeCharacters := by
    rw [typeCharacters]
    cases column.type with
    | none => simp
    | some type =>
      intro member
      exact (List.mem_append.mp member).elim noType (type.not_mem foreign)
  rw [characters]
  intro member
  rcases List.mem_append.mp member with key | behind
  · split at key
    · exact noKey key
    · simp at key
  · exact (List.mem_append.mp behind).elim inName inType

/-- A printed column may stand in the body of a table. -/
theorem isAttributeLine_column (column : Column) :
    Progress.isAttributeLine column.line = true := by
  have noDash : '-' ∉ column.characters :=
    column.not_mem_characters (by decide) (by decide) (by decide)
  have noDot : '.' ∉ column.characters :=
    column.not_mem_characters (by decide) (by decide) (by decide)
  have nonempty : column.line.isEmpty = false := by
    have filled : column.characters ≠ [] := by
      simp [Column.characters, column.name.nonempty]
    rw [← column.toList_line] at filled
    simpa using filled
  rw [Progress.isAttributeLine, nonempty, column.toList_line, occursIn_of_absent rfl noDash,
    occursIn_of_absent rfl noDot]
  rfl

/-- The name and the type of an attribute, behind its asterisk and blanks. -/
def nameAndType? (line : List Char) : Option (List Char × List Char) := do
  let (name, rest) ← run? (· != ':') line
  if rest.isEmpty then some (name, [])
  else
    let type ← labelBehindColon? rest
    return (name, type)

/-- An attribute is its name and type behind an asterisk and blanks, which may be absent. -/
theorem attribute?_eq (line : String) :
    attribute? line =
      (optionally '*' line.toList (anyBlanks · nameAndType?)).bind fun found =>
        some {
          name := String.ofList (trim (dropAsterisk found.1))
          type := String.ofList found.2
          isPrimaryKey := (expect "*" line.toList).isSome } := rfl

/-- Without an asterisk in it, a text is left as it is. -/
theorem dropAsterisk_of_not_mem {text : List Char} (absent : '*' ∉ text) :
    dropAsterisk text = text := by
  induction text with
  | nil => rfl
  | cons character rest inductionHypothesis =>
    have other : character ≠ '*' := fun same => absent (by simp [same])
    have tail := inductionHypothesis fun member => absent (List.mem_cons_of_mem _ member)
    simp [dropAsterisk, other, tail]

/-- The name and the type of a column are read, the former perhaps with a blank behind it. -/
theorem nameAndType?_column (column : Column) :
    (nameAndType? (column.name.characters ++ column.typeCharacters)).map
        (fun found => (trim (dropAsterisk found.1), found.2)) =
      some (column.name.characters, (column.type.map Word.characters).getD []) := by
  have noAsterisk : '*' ∉ column.name.characters := column.name.not_mem (by decide)
  have noColon : ∀ character ∈ column.name.characters, (character != ':') = true := by
    intro character member
    have other : character ≠ ':' := column.name.ne_of_mem (by decide) member
    simpa using other
  rw [Column.typeCharacters]
  cases column.type with
  | none =>
    have run : run? (· != ':') column.name.characters = some (column.name.characters, []) :=
      run?_of_accepted column.name.nonempty noColon
    have read : nameAndType? column.name.characters = some (column.name.characters, []) := by
      rw [nameAndType?, run]
      rfl
    rw [List.append_nil, read, Option.map_some, dropAsterisk_of_not_mem noAsterisk,
      column.name.trim_characters]
    rfl
  | some type =>
    have spaced : column.name.characters ++ (" : ".toList ++ type.characters) =
        (column.name.characters ++ [' ']) ++ (": ".toList ++ type.characters) := by simp
    have run : run? (· != ':')
        ((column.name.characters ++ [' ']) ++ (": ".toList ++ type.characters)) =
        some (column.name.characters ++ [' '], ": ".toList ++ type.characters) := by
      refine run?_of_forced (by simp) ?_ (refused_of_head? rfl (by decide))
      intro character member
      rcases List.mem_append.mp member with inName | blank
      · exact noColon character inName
      · obtain rfl : character = ' ' := by simpa using blank
        decide
    have label : labelBehindColon? (": ".toList ++ type.characters) = some type.characters :=
      type.labelBehindColon?_append [] (by simp)
    have read : nameAndType? (column.name.characters ++ (" : ".toList ++ type.characters)) =
        (labelBehindColon? (": ".toList ++ type.characters)).bind
          fun type => some (column.name.characters ++ [' '], type) := by
      rw [spaced, nameAndType?, run]
      rfl
    have noAsterisk : '*' ∉ column.name.characters ++ [' '] := by
      intro member
      exact (List.mem_append.mp member).elim noAsterisk (by decide)
    rw [read, label, Option.bind_some, Option.map_some, dropAsterisk_of_not_mem noAsterisk,
      column.name.trim_append_blank (by decide)]
    rfl

/-- A printed column is read as its attribute. -/
theorem attribute?_column (column : Column) :
    attribute? column.line = some column.entityAttribute := by
  obtain ⟨found, read, same⟩ := Option.map_eq_some_iff.mp (nameAndType?_column column)
  obtain ⟨name, type⟩ := Prod.mk.inj same
  have text : String.ofList ((column.type.map Word.characters).getD []) =
      (column.type.map Word.text).getD "" := by
    cases column.type <;> rfl
  have behindMark : ∀ blanks, (∀ character ∈ blanks, isBlank character = true) →
      anyBlanks (blanks ++ (column.name.characters ++ column.typeCharacters)) nameAndType? =
        some found :=
    fun blanks blank => column.name.anyBlanks_append blank read
  have marked : optionally '*' column.characters (anyBlanks · nameAndType?) = some found ∧
      (expect "*" column.characters).isSome = column.isKey := by
    rw [Column.characters]
    cases column.isKey with
    | true =>
      have behind := behindMark [' '] (List.all_eq_true.mp (by decide))
      exact ⟨optionally_cons_of_some behind, rfl⟩
    | false =>
      have behind := behindMark [] (by simp)
      have unmarked : expect "*" (column.name.characters ++ column.typeCharacters) = none :=
        expect_eq_none rfl (column.name.ne_of_head? (by decide) _)
      exact ⟨(column.name.optionally_append (by decide) _ _).trans behind,
        Option.isSome_eq_false_iff.mpr (Option.isNone_iff_eq_none.mpr unmarked)⟩
  rw [attribute?_eq, column.toList_line, marked.1, marked.2, Option.bind_some, name, type, text]
  rfl

/-- The second name and the label of a relationship. -/
def targetAndLabel? (line : List Char) : Option (List Char × List Char) := do
  let (target, rest) ← word? (dropBlanks line)
  let label ← optionalLabel? rest
  return (target, label)

/-- A relationship is two words with a stroke between them, and perhaps a label. -/
theorem relationship?_eq (line : List Char) :
    relationship? line =
      (longest1 isWord line fun rest => longest1 isCardinality (dropBlanks rest) fun rest =>
        longest1 isStroke rest fun rest => longest1 isCardinality rest targetAndLabel?).bind
          fun (source, _, _, _, target, label) => some {
            source := String.ofList source
            target := String.ofList target
            label := String.ofList label } := rfl

/-- The second name and the label of a tie are read behind its stroke. -/
theorem targetAndLabel?_tie (tie : Tie) :
    targetAndLabel? tie.behindStroke = some (tie.target.characters, tie.label.characters) := by
  have begins : dropBlanks tie.behindStroke =
      tie.target.characters ++ (" : ".toList ++ tie.label.characters) :=
    tie.target.dropBlanks_append _
  have target : word? (tie.target.characters ++ (" : ".toList ++ tie.label.characters)) =
      some (tie.target.characters, " : ".toList ++ tie.label.characters) :=
    run?_of_forced tie.target.nonempty tie.target.letters (refused_of_head? rfl (by decide))
  have label : optionalLabel? (" : ".toList ++ tie.label.characters) =
      some tie.label.characters := by
    have behindColon : labelBehindColon? (" : ".toList ++ tie.label.characters) =
        some tie.label.characters :=
      tie.label.labelBehindColon?_append [' '] (List.all_eq_true.mp (by decide))
    rw [optionalLabel?, behindColon]
  have read : targetAndLabel? tie.behindStroke =
      (optionalLabel? (" : ".toList ++ tie.label.characters)).bind fun label =>
        some (tie.target.characters, label) := by
    rw [targetAndLabel?, begins, target]
    rfl
  rw [read, label, Option.bind_some]

/-- A printed tie is read as its relationship. -/
theorem relationship?_tie (tie : Tie) :
    relationship? tie.line.toList = some tie.relationship := by
  have right : longest1 isCardinality ("o\x7b".toList ++ tie.behindStroke) targetAndLabel? =
      some ("o\x7b".toList, tie.target.characters, tie.label.characters) :=
    longest1_of_forced (by decide) (List.all_eq_true.mp (by decide))
      (refused_of_head? rfl (by decide)) (targetAndLabel?_tie tie)
  have stroke : longest1 isStroke ("--".toList ++ ("o\x7b".toList ++ tie.behindStroke))
      (longest1 isCardinality · targetAndLabel?) =
      some ("--".toList, "o\x7b".toList, tie.target.characters, tie.label.characters) :=
    longest1_of_forced (by decide) (List.all_eq_true.mp (by decide))
      (refused_of_head? rfl (by decide)) right
  have left : longest1 isCardinality
      ("||".toList ++ ("--".toList ++ ("o\x7b".toList ++ tie.behindStroke)))
      (longest1 isStroke · (longest1 isCardinality · targetAndLabel?)) =
      some ("||".toList, "--".toList, "o\x7b".toList, tie.target.characters,
        tie.label.characters) :=
    longest1_of_forced (by decide) (List.all_eq_true.mp (by decide))
      (refused_of_head? rfl (by decide)) stroke
  have source : longest1 isWord (tie.source.characters ++ tie.behindSource)
      (fun rest => longest1 isCardinality (dropBlanks rest)
        (longest1 isStroke · (longest1 isCardinality · targetAndLabel?))) =
      some (tie.source.characters, "||".toList, "--".toList, "o\x7b".toList,
        tie.target.characters, tie.label.characters) :=
    longest1_of_forced tie.source.nonempty tie.source.letters tie.behindSource_ended left
  rw [relationship?_eq, tie.toList_line, source, Option.bind_some]
  rfl

end Drafting.EntityDiagram
