import Mathlib.Data.List.Basic
import Drafting.Proofs.Split
import Drafting.Proofs.Text.Word
import Drafting.Text.Scan

/-!
# Where a run ends

The search for the longest run stops at a place behind which the rest can be read
and behind which no later one can. The search for the shortest run stops at the
first place where the rest can be read. A mark that occurs once in a line therefore
ends the run before it in both searches.

A word is read as a whole where no word character follows it, and it begins with a fixed
word of the language only if the latter is a prefix of it.
-/

namespace Drafting.Text

variable {α : Type}

/-- No run is found where the rest can be read at no place. -/
theorem longest_eq_none {accepts : Char → Bool} {line : List Char}
    {next : List Char → Option α}
    (fails : ∀ before behind, line = before ++ behind → next behind = none) :
    longest accepts line next = none := by
  cases read : longest accepts line next with
  | none => rfl
  | some found =>
    obtain ⟨run, result⟩ := found
    obtain ⟨rest, split, _, succeeds⟩ := longest_split read
    have failed := fails run rest split
    rw [succeeds] at failed
    contradiction

/-- The longest run ends at the last place behind which the rest can be read. -/
theorem longest_of_last {accepts : Char → Bool} {run rest : List Char}
    {next : List Char → Option α} {found : α}
    (accepted : ∀ character ∈ run, accepts character = true)
    (succeeds : next rest = some found)
    (last : ∀ character before behind, rest = character :: (before ++ behind) →
      next behind = none) :
    longest accepts (run ++ rest) next = some (run, found) := by
  induction run with
  | nil =>
    cases rest with
    | nil => simp [longest, succeeds]
    | cons character tail =>
      have later : longest accepts tail next = none :=
        longest_eq_none fun before behind split => last character before behind (by rw [split])
      simp [longest, later, succeeds]
  | cons character tail inductionHypothesis =>
    have head := accepted character (by simp)
    have shorter := inductionHypothesis fun other inTail => accepted other (by simp [inTail])
    simp [longest, head, shorter, grow]

/-- The longest run of at least one character ends at the last place behind which the
rest can be read. -/
theorem longest1_of_last {accepts : Char → Bool} {run rest : List Char}
    {next : List Char → Option α} {found : α} (nonempty : run ≠ [])
    (accepted : ∀ character ∈ run, accepts character = true)
    (succeeds : next rest = some found)
    (last : ∀ character before behind, rest = character :: (before ++ behind) →
      next behind = none) :
    longest1 accepts (run ++ rest) next = some (run, found) := by
  cases run with
  | nil => contradiction
  | cons character tail =>
    have shorter : longest accepts (tail ++ rest) next = some (tail, found) :=
      longest_of_last (fun other inTail => accepted other (by simp [inTail])) succeeds last
    simp [longest1, accepted character (by simp), shorter, grow]

/-- Where the rest can be read at no place, no shortest run is found. -/
theorem shortest_eq_none {accepts : Char → Bool} {line : List Char}
    {next : List Char → Option α} (fails : ∀ behind, behind <:+ line → next behind = none) :
    shortest accepts line next = none := by
  induction line with
  | nil => rw [shortest, fails [] List.suffix_rfl]
  | cons character others inductionHypothesis =>
    have later : shortest accepts others next = none :=
      inductionHypothesis fun behind inOthers =>
        fails behind (inOthers.trans (List.suffix_cons _ _))
    rw [shortest, fails _ List.suffix_rfl]
    simp [later]

/-- The shortest run ends at the first place behind which the rest can be read. -/
theorem shortest_of_first {accepts : Char → Bool} {run rest : List Char}
    {next : List Char → Option α} {found : α}
    (accepted : ∀ character ∈ run, accepts character = true)
    (succeeds : next rest = some found)
    (first : ∀ character ∈ run, ∀ behind, next (character :: behind) = none) :
    shortest accepts (run ++ rest) next = some (run, found) := by
  induction run with
  | nil =>
    rw [List.nil_append, shortest.eq_def, succeeds]
  | cons character tail inductionHypothesis =>
    have head := accepted character (by simp)
    have notHere := first character (by simp) (tail ++ rest)
    have shorter := inductionHypothesis (fun other inTail => accepted other (by simp [inTail]))
      fun other inTail => first other (by simp [inTail])
    rw [List.cons_append, shortest, notHere]
    simp [head, shorter, grow]

/-- The shortest run of at least one character ends at the first place behind which the
rest can be read. -/
theorem shortest1_of_first {accepts : Char → Bool} {run rest : List Char}
    {next : List Char → Option α} {found : α} (nonempty : run ≠ [])
    (accepted : ∀ character ∈ run, accepts character = true)
    (succeeds : next rest = some found)
    (first : ∀ character ∈ run, ∀ behind, next (character :: behind) = none) :
    shortest1 accepts (run ++ rest) next = some (run, found) := by
  cases run with
  | nil => contradiction
  | cons character tail =>
    have shorter : shortest accepts (tail ++ rest) next = some (tail, found) :=
      shortest_of_first (fun other inTail => accepted other (by simp [inTail])) succeeds
        fun other inTail => first other (by simp [inTail])
    simp [shortest1, accepted character (by simp), shorter, grow]

/-- Nothing stands behind a mark that occurs only at the end. -/
theorem behind_of_concat {text before behind : List Char} {mark : Char} (absent : mark ∉ text)
    (split : text ++ [mark] = before ++ mark :: behind) : behind = [] := by
  rcases split_of_concat split with ⟨_, _, nothing⟩ | ⟨rest, _, earlier⟩
  · exact nothing
  · exact absurd (by simp [earlier]) absent

/-- A text that begins with a literal goes on behind it. -/
theorem expect_append (literal : String) (rest : List Char) :
    expect literal (literal.toList ++ rest) = some rest :=
  List.isPrefixOf?_eq_some_iff_append_eq.mpr rfl

/-- Where a literal of one character was found, it stands at the beginning. -/
theorem eq_of_expect {literal : String} {mark : Char} (single : literal.toList = [mark])
    {line rest : List Char} (found : expect literal line = some rest) : line = mark :: rest := by
  have same := List.isPrefixOf?_eq_some_iff_append_eq.mp found
  rw [single] at same
  exact same.symm

/-- The longest run before a mark ends there if the rest can be read behind the mark,
and behind no later occurrence of it. -/
theorem longest1_before_mark {accepts : Char → Bool} {literal : String} {mark : Char}
    (single : literal.toList = [mark]) {run rest : List Char}
    {after : List Char → Option α} {found : α} (nonempty : run ≠ [])
    (accepted : ∀ character ∈ run, accepts character = true) (succeeds : after rest = some found)
    (last : ∀ before behind, rest = before ++ mark :: behind → after behind = none) :
    longest1 accepts (run ++ mark :: rest) (fun line => (expect literal line).bind after) =
      some (run, found) := by
  have begins : expect literal (mark :: rest) = some rest := by
    have appended := expect_append literal rest
    rwa [single] at appended
  refine longest1_of_last nonempty accepted (by simp [begins, succeeds]) ?_
  intro character before behind split
  obtain ⟨_, later⟩ := List.cons.inj split
  cases found : expect literal behind with
  | none => rfl
  | some further =>
    have stands : behind = mark :: further := eq_of_expect single found
    rw [stands] at later
    exact last before further later

/-- A longest run of at least one character is not shortened if its successor cannot be
part of it and the rest can be read. -/
theorem longest1_of_forced {accepts : Char → Bool} {run rest : List Char}
    {next : List Char → Option α} {found : α} (nonempty : run ≠ [])
    (accepted : ∀ character ∈ run, accepts character = true)
    (ended : ∀ character ∈ rest.head?, accepts character = false)
    (succeeds : next rest = some found) :
    longest1 accepts (run ++ rest) next = some (run, found) := by
  cases run with
  | nil => contradiction
  | cons character tail =>
    have shorter : longest accepts (tail ++ rest) next = some (tail, found) :=
      longest_of_forced (fun other inTail => accepted other (by simp [inTail])) ended succeeds
    simp [longest1, accepted character (by simp), shorter, grow]

/-- What is refused as the first character of a line ends a run before the line. -/
theorem refused_of_head? {accepts : Char → Bool} {line : List Char} {first : Char}
    (begins : line.head? = some first) (refused : accepts first = false) :
    ∀ character ∈ line.head?, accepts character = false := by
  intro character member
  obtain rfl : first = character := by rw [begins] at member; exact Option.mem_some.mp member
  exact refused

/-- Blanks are skipped as far as they go. -/
theorem anyBlanks_of_forced {blanks rest : List Char} {next : List Char → Option α} {found : α}
    (blank : ∀ character ∈ blanks, isBlank character = true)
    (ended : ∀ character ∈ rest.head?, isBlank character = false)
    (succeeds : next rest = some found) : anyBlanks (blanks ++ rest) next = some found := by
  rw [anyBlanks, longest_of_forced blank ended succeeds, Option.map_some]

/-- What is left when leading blanks are skipped begins with no blank. -/
theorem isBlank_of_head?_dropBlanks {text : List Char} :
    ∀ character ∈ (dropBlanks text).head?, isBlank character = false := by
  intro character begins
  have refused := List.head?_dropWhile_not isBlank text
  rw [dropBlanks, Option.mem_def] at begins
  rw [begins] at refused
  exact Bool.eq_false_iff.mpr (by simpa using refused)

/-- Where the rest can be read behind all leading blanks, they are skipped. -/
theorem anyBlanks_of_dropBlanks {text : List Char} {next : List Char → Option α} {found : α}
    (succeeds : next (dropBlanks text) = some found) : anyBlanks text next = some found := by
  have blank : ∀ character ∈ text.takeWhile isBlank, isBlank character = true :=
    List.all_eq_true.mp List.all_takeWhile
  have skipped := anyBlanks_of_forced blank isBlank_of_head?_dropBlanks succeeds
  rwa [dropBlanks, List.takeWhile_append_dropWhile] at skipped

/-- A run is what is accepted before the first character that is not. -/
theorem run?_of_forced {accepts : Char → Bool} {run rest : List Char} (nonempty : run ≠ [])
    (accepted : ∀ character ∈ run, accepts character = true)
    (ended : ∀ character ∈ rest.head?, accepts character = false) :
    run? accepts (run ++ rest) = some (run, rest) := by
  have stops : rest.takeWhile accepts = [] ∧ rest.dropWhile accepts = rest := by
    cases rest with
    | nil => simp
    | cons character tail => simp [ended character (by simp)]
  rw [run?, List.takeWhile_append_of_pos accepted, List.dropWhile_append_of_pos accepted,
    stops.1, stops.2, List.append_nil]
  cases run with
  | nil => contradiction
  | cons character tail => rfl

/-- A text that is accepted as a whole is a run with nothing behind it. -/
theorem run?_of_accepted {accepts : Char → Bool} {run : List Char} (nonempty : run ≠ [])
    (accepted : ∀ character ∈ run, accepts character = true) :
    run? accepts run = some (run, []) := by
  have ended : ∀ character ∈ ([] : List Char).head?, accepts character = false := by simp
  have forced := run?_of_forced nonempty accepted ended
  rwa [List.append_nil] at forced

/-- A text is found exactly at the beginning of the lines that it is a prefix of. -/
theorem isSome_expect_iff (literal : String) (line : List Char) :
    (expect literal line).isSome ↔ literal.toList <+: line := by
  rw [Option.isSome_iff_exists]
  constructor
  · rintro ⟨rest, found⟩
    exact ⟨rest, List.isPrefixOf?_eq_some_iff_append_eq.mp found⟩
  · rintro ⟨rest, split⟩
    exact ⟨rest, List.isPrefixOf?_eq_some_iff_append_eq.mpr split⟩

/-- A text is not found where the line begins with another character. -/
theorem expect_eq_none {literal : String} {mark : Char}
    (begins : literal.toList.head? = some mark) {line : List Char}
    (other : ∀ character ∈ line.head?, character ≠ mark) : expect literal line = none := by
  cases found : expect literal line with
  | none => rfl
  | some rest =>
    have split := List.isPrefixOf?_eq_some_iff_append_eq.mp found
    have first : line.head? = some mark := by
      rw [← split, List.head?_append, begins, Option.some_or]
    exact absurd rfl (other mark first)

/-- A literal is not found where its first character does not occur. -/
theorem expect_of_not_mem {literal : String} {mark : Char}
    (begins : literal.toList.head? = some mark) {line : List Char} (absent : mark ∉ line) :
    expect literal line = none := by
  apply expect_eq_none begins
  rintro character first rfl
  exact absent (List.mem_of_head? (Option.mem_def.mp first))

/-- A line is no text that begins with another character. -/
theorem beq_eq_false_of_head? {line text : String} {mark : Char}
    (begins : text.toList.head? = some mark)
    (other : ∀ character ∈ line.toList.head?, character ≠ mark) : (line == text) = false := by
  rw [beq_eq_false_iff_ne]
  rintro rfl
  exact other mark begins rfl

/-- What is left behind a literal is an end of the text. -/
theorem suffix_of_expect {literal : String} {line rest : List Char}
    (found : expect literal line = some rest) : rest <:+ line :=
  ⟨literal.toList, List.isPrefixOf?_eq_some_iff_append_eq.mp found⟩

/-- A text is the run at its beginning and what is left behind it. -/
theorem split_of_run? {accepts : Char → Bool} {line run rest : List Char}
    (found : run? accepts line = some (run, rest)) :
    line = run ++ rest ∧ run ≠ [] ∧ ∀ character ∈ run, accepts character = true := by
  rw [run?] at found
  split at found
  · contradiction
  · next nonempty =>
    obtain ⟨rfl, rfl⟩ := Prod.mk.inj (Option.some.inj found)
    exact ⟨List.takeWhile_append_dropWhile.symm, nonempty, List.all_eq_true.mp List.all_takeWhile⟩

/-- What is left behind a run is an end of the text. -/
theorem suffix_of_run? {accepts : Char → Bool} {line run rest : List Char}
    (found : run? accepts line = some (run, rest)) : rest <:+ line := by
  obtain ⟨rfl, _, _⟩ := split_of_run? found
  exact List.suffix_append run rest

/-- What is left when leading blanks are skipped is an end of the text. -/
theorem dropBlanks_suffix (line : List Char) : dropBlanks line <:+ line :=
  List.dropWhile_suffix _

/-- The expected character is taken where the rest can be read behind it. -/
theorem optionally_cons_of_some {expected : Char} {rest : List Char}
    {next : List Char → Option α} {found : α} (succeeds : next rest = some found) :
    optionally expected (expected :: rest) next = some found := by
  simp [optionally, succeeds]

/-- A character that is not the expected one is not taken. -/
theorem optionally_of_ne {expected : Char} {line : List Char} {next : List Char → Option α}
    (other : ∀ character ∈ line.head?, character ≠ expected) :
    optionally expected line next = next line := by
  cases line with
  | nil => rfl
  | cons character rest => simp [optionally, other character (by simp)]

/-- What is found behind blanks was found there. -/
theorem exists_of_someBlanks {line : List Char} {next : List Char → Option α} {found : α}
    (read : someBlanks line next = some found) : ∃ rest, next rest = some found := by
  obtain ⟨⟨run, _⟩, longer, rfl⟩ := Option.map_eq_some_iff.mp read
  cases line with
  | nil => simp [longest1] at longer
  | cons character others =>
    rw [longest1] at longer
    obtain ⟨_, later⟩ := Option.ite_none_right_eq_some.mp longer
    obtain ⟨⟨shorter, behind⟩, inRest, same⟩ := Option.map_eq_some_iff.mp later
    obtain ⟨rest, _, _, succeeds⟩ := longest_split inRest
    obtain ⟨_, rfl⟩ := Prod.mk.inj same
    exact ⟨rest, succeeds⟩

/-- What is found with or without a character was found behind it or before it. -/
theorem exists_of_optionally {expected : Char} {line : List Char} {next : List Char → Option α}
    {found : α} (read : optionally expected line next = some found) :
    ∃ rest, next rest = some found := by
  cases line with
  | nil => exact ⟨[], read⟩
  | cons character others =>
    rw [optionally] at read
    split at read
    · split at read
      · next within => exact ⟨others, within.trans read⟩
      · exact ⟨_, read⟩
    · exact ⟨_, read⟩

/-- What does not hold the first character of a text does not hold the text. -/
theorem occursIn_of_absent {needle : String} {mark : Char}
    (begins : needle.toList.head? = some mark) {text : List Char} (absent : mark ∉ text) :
    occursIn needle text = false := by
  have nowhere : search (expect needle) text = none := by
    induction text with
    | nil => rw [search, expect_of_not_mem begins absent]
    | cons character rest inductionHypothesis =>
      rw [search, expect_of_not_mem begins absent]
      exact inductionHypothesis fun member => absent (List.mem_cons_of_mem _ member)
  rw [occursIn, nowhere, Option.isSome_none]

/-- Whatever is no line feed may stand in a line. -/
theorem inLine_of_ne {character : Char} (other : character ≠ '\n') : inLine character = true := by
  simpa [inLine] using other

/-- What is read as a word is one. -/
theorem exists_word {line characters rest : List Char}
    (read : word? line = some (characters, rest)) :
    ∃ word : Word, word.characters = characters := by
  obtain ⟨_, nonempty, letters⟩ := split_of_run? read
  exact ⟨⟨characters, nonempty, letters⟩, rfl⟩

namespace Word

/-- The first character of what begins with a word is a word character. -/
theorem head?_append (word : Word) (rest : List Char) :
    ∃ first, (word.characters ++ rest).head? = some first ∧ isWord first = true := by
  obtain ⟨characters, nonempty, letters⟩ := word
  cases characters with
  | nil => contradiction
  | cons first others => exact ⟨first, rfl, letters first (by simp)⟩

/-- There are no blanks to drop before a word. -/
theorem dropBlanks_append (word : Word) (rest : List Char) :
    dropBlanks (word.characters ++ rest) = word.characters ++ rest := by
  obtain ⟨characters, nonempty, letters⟩ := word
  cases characters with
  | nil => contradiction
  | cons first others =>
    exact dropBlanks_cons_of_not_blank _ (isBlank_of_isWord (letters first (by simp)))

/-- A word alone has no blanks before it. -/
theorem dropBlanks_characters (word : Word) : dropBlanks word.characters = word.characters := by
  have kept := word.dropBlanks_append []
  rwa [List.append_nil] at kept

/-- Trimming cuts off a blank behind a word. -/
theorem trim_append_blank (word : Word) {blank : Char} (isBlank : isBlank blank = true) :
    trim (word.characters ++ [blank]) = word.characters := by
  rw [trim, word.dropBlanks_append, dropTrailingBlanks_append_of_blank _ isBlank,
    dropTrailingBlanks_of_no_blank fun character member =>
      isBlank_of_isWord (word.letters character member)]

/-- No word begins with a mark. -/
theorem ne_of_head? (word : Word) {mark : Char} (foreign : isWord mark = false)
    (rest : List Char) : ∀ character ∈ (word.characters ++ rest).head?, character ≠ mark := by
  intro character begins same
  obtain ⟨first, head, letter⟩ := word.head?_append rest
  obtain rfl : first = character := by rw [head] at begins; exact Option.mem_some.mp begins
  simp [same, foreign] at letter

/-- A mark before a word is not taken, as there is none. -/
theorem optionally_append (word : Word) {mark : Char} (foreign : isWord mark = false)
    (rest : List Char) (next : List Char → Option α) :
    optionally mark (word.characters ++ rest) next = next (word.characters ++ rest) :=
  optionally_of_ne (word.ne_of_head? foreign rest)

/-- Blanks before a word are skipped. -/
theorem anyBlanks_append (word : Word) {blanks rest : List Char}
    {next : List Char → Option α} {found : α}
    (blank : ∀ character ∈ blanks, isBlank character = true)
    (succeeds : next (word.characters ++ rest) = some found) :
    anyBlanks (blanks ++ (word.characters ++ rest)) next = some found := by
  obtain ⟨first, begins, letter⟩ := word.head?_append rest
  exact anyBlanks_of_forced blank (refused_of_head? begins (isBlank_of_isWord letter)) succeeds

/-- A fixed word at the beginning of a word and what follows it is a prefix of the word. -/
theorem prefix_of_prefix_append (word : Word) {fixed rest : List Char}
    (letters : ∀ character ∈ fixed, isWord character = true)
    (ended : ∀ character ∈ rest.head?, isWord character = false)
    (begins : fixed <+: word.characters ++ rest) : fixed <+: word.characters := by
  rcases Nat.le_total fixed.length word.characters.length with short | long
  · exact List.prefix_of_prefix_length_le begins (List.prefix_append _ _) short
  · obtain ⟨more, rfl⟩ := List.prefix_of_prefix_length_le (List.prefix_append _ _) begins long
    have behind : more <+: rest := (List.prefix_append_right_inj _).mp begins
    cases more with
    | nil => simp
    | cons character others =>
      obtain ⟨further, rfl⟩ := behind
      have letter := letters character (by simp)
      simp [ended character (by simp)] at letter

/-- A word may stand in a line. -/
theorem inLine_of_mem (word : Word) : ∀ character ∈ word.characters, inLine character = true :=
  fun _ member => inLine_of_ne (word.ne_of_mem (by decide) member)

/-- A word that is all that is left of a line is the rest of the line. -/
theorem restOfLine?_characters (word : Word) :
    restOfLine? word.characters = some word.characters := by
  have run : run? inLine word.characters = some (word.characters, []) :=
    run?_of_accepted word.nonempty word.inLine_of_mem
  rw [restOfLine?, run]
  rfl

/-- A label behind a colon is read where it is a word. -/
theorem labelBehindColon?_append (label : Word) (blanks : List Char)
    (blank : ∀ character ∈ blanks, isBlank character = true) :
    labelBehindColon? (blanks ++ (": ".toList ++ label.characters)) = some label.characters := by
  have colon : dropBlanks (blanks ++ (": ".toList ++ label.characters)) =
      ": ".toList ++ label.characters := by
    rw [dropBlanks, List.dropWhile_append_of_pos blank]
    rfl
  have behind : anyBlanks ([' '] ++ (label.characters ++ [])) restOfLine? =
      some label.characters := by
    refine label.anyBlanks_append (List.all_eq_true.mp (by decide)) ?_
    rw [List.append_nil]
    exact label.restOfLine?_characters
  rw [List.append_nil] at behind
  rw [labelBehindColon?, colon]
  exact behind

end Word

end Drafting.Text
