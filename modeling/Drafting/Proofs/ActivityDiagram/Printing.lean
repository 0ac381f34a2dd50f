import Drafting.ActivityDiagram.Reader
import Drafting.Proofs.Text.Scan
import Drafting.Proofs.Text.Word

/-!
# Printed statements

The statements of structured activities are printed as lines whose labels and
conditions are words. Each printed line is read as its statement, since no form that
is tried earlier accepts it: their keywords differ at one of the first characters. And
no mark that ends a label occurs within one, so each label ends where it was printed.
Reading printed lines therefore carries out their statements in order.
-/

namespace Drafting.ActivityDiagram

open Text

/-- A line of a structured activity. -/
inductive Line where
  | start
  | stop
  | fork
  | action (label : Word)
  | ifThen (condition branch : Word)
  | elseIf (condition branch : Word)
  | elseBranch (branch : Word)
  | endIf
  | whileLoop (condition branch : Word)
  | endWhile

namespace Line

/-- How a line is printed. -/
def text : Line → String
  | start => "start"
  | stop => "stop"
  | fork => "fork"
  | action label => ":" ++ label.text ++ ";"
  | ifThen condition branch => "if (" ++ condition.text ++ ") then (" ++ branch.text ++ ")"
  | elseIf condition branch => "elseif (" ++ condition.text ++ ") then (" ++ branch.text ++ ")"
  | elseBranch branch => "else (" ++ branch.text ++ ")"
  | endIf => "endif"
  | whileLoop condition branch => "while (" ++ condition.text ++ ") is (" ++ branch.text ++ ")"
  | endWhile => "endwhile"

/-- What a line says. -/
def statement : Line → Statement
  | start => .start
  | stop => .stop
  | fork => .fork
  | action label => .action label.text
  | ifThen condition branch => .ifThen condition.text branch.text
  | elseIf condition branch => .elseIf condition.text branch.text
  | elseBranch branch => .elseBranch branch.text
  | endIf => .endIf
  | whileLoop condition branch => .whileLoop condition.text (some branch.text)
  | endWhile => .endWhile

end Line

namespace Statement

/-- The label of a word is the word. -/
theorem labelOf_word (word : Word) : labelOf word.characters = word.text := by
  rw [labelOf, word.trim_characters, Word.text]

/-- A word between a mark and the end of the line is the label before that mark. -/
theorem longest1_word {literal : String} {mark : Char} (single : literal.toList = [mark])
    (word : Word) :
    longest1 inLine (word.characters ++ [mark])
      (fun rest => (expect literal rest).bind fun rest => if atEnd rest then some () else none) =
      some (word.characters, ()) := by
  refine longest1_before_mark single word.nonempty word.inLine_of_mem rfl ?_
  intro before behind split
  simp at split

/-- An action is read with its label. -/
theorem action?_word (label : Word) :
    action? (':' :: (label.characters ++ [';'])) = some (.action label.text) := by
  have begins : ∀ rest, action? (':' :: rest) =
      (longest1 inLine rest fun rest =>
        (expect ";" rest).bind fun rest => if atEnd rest then some () else none).bind
        fun found => some (.action (labelOf found.1)) := fun _ => rfl
  rw [begins, longest1_word rfl label, Option.bind_some, labelOf_word]

/-- A label in parentheses is read at the end of a line. -/
theorem lastLabel?_word (label : Word) :
    lastLabel? (' ' :: '(' :: (label.characters ++ [')'])) = some label.characters := by
  have begins : ∀ rest, lastLabel? (' ' :: '(' :: rest) =
      (longest1 inLine rest fun rest =>
        (expect ")" rest).bind fun rest => if atEnd rest then some () else none).bind
        fun found => some found.1 := fun _ => rfl
  rw [begins, longest1_word rfl label, Option.bind_some]

/-- The last branch of a decision is read with its label. -/
theorem elseBranch?_word (branch : Word) :
    elseBranch? ("else (".toList ++ (branch.characters ++ [')'])) =
      some (.elseBranch branch.text) := by
  have begins : ∀ rest, elseBranch? ("else (".toList ++ rest) =
      (lastLabel? (' ' :: '(' :: rest)).bind fun label => some (.elseBranch (labelOf label)) :=
    fun _ => rfl
  rw [begins, lastLabel?_word, Option.bind_some, labelOf_word]

/-- The label behind the second keyword of a decision. -/
def thenLabel? (line : List Char) : Option (List Char) :=
  (expect "then" (dropBlanks line)).bind lastLabel?

/-- The label of the body behind the condition of a loop, which may be missing. -/
def bodyLabel? (line : List Char) : Option (Option String) :=
  let labelled := do
    let branch ← lastLabel? (← expect "is" (dropBlanks line))
    return some (String.ofList branch)
  labelled <|> if atEnd (dropBlanks line) then some none else none

/-- A decision is read up to its condition, and from there to its label. -/
theorem branch?_eq (keyword : String) (make : String → String → Statement) (rest : List Char) :
    branch? keyword make (keyword.toList ++ (" (".toList ++ rest)) =
      (longest1 inLine rest fun rest => (expect ")" rest).bind thenLabel?).bind
        fun found => some (make (labelOf found.1) (labelOf found.2)) := by
  rw [branch?, expect_append]
  rfl

/-- A loop is read up to its condition, and from there to its label. -/
theorem whileLoop?_eq (rest : List Char) :
    whileLoop? ("while (".toList ++ rest) =
      (shortest1 inLine rest fun rest => (expect ")" rest).bind bodyLabel?).bind
        fun found => some (.whileLoop (labelOf found.1) found.2) := rfl

/-- A keyword is read with the condition and the label behind it. The condition ends
at the parenthesis before the second keyword, since no other one is followed by it. -/
theorem branch?_words (keyword : String) (make : String → String → Statement)
    (condition branch : Word) :
    branch? keyword make (keyword.toList ++ (" (".toList ++ (condition.characters ++
      ')' :: (" then (".toList ++ (branch.characters ++ [')']))))) =
      some (make condition.text branch.text) := by
  have succeeds : thenLabel? (" then (".toList ++ (branch.characters ++ [')'])) =
      some branch.characters := lastLabel?_word branch
  have last : ∀ before behind,
      " then (".toList ++ (branch.characters ++ [')']) = before ++ ')' :: behind →
      thenLabel? behind = none := by
    intro before behind split
    have absent : ')' ∉ " then (".toList ++ branch.characters := by
      intro member
      rcases List.mem_append.mp member with fixed | inLabel
      · exact absurd fixed (by decide)
      · exact branch.not_mem (by decide) inLabel
    rw [← List.append_assoc] at split
    rw [behind_of_concat absent split]
    rfl
  rw [branch?_eq, longest1_before_mark rfl condition.nonempty condition.inLine_of_mem succeeds
    last, Option.bind_some, labelOf_word, labelOf_word]

/-- A loop is read with its condition and the label of its body. -/
theorem whileLoop?_words (condition branch : Word) :
    whileLoop? ("while (".toList ++ (condition.characters ++
      ')' :: (" is (".toList ++ (branch.characters ++ [')'])))) =
      some (.whileLoop condition.text (some branch.text)) := by
  have succeeds : (expect ")" (')' :: (" is (".toList ++ (branch.characters ++ [')'])))).bind
      bodyLabel? = some (some branch.text) := by
    have closed : ∀ rest, expect ")" (')' :: rest) = some rest := fun _ => rfl
    have keyword : ∀ rest, expect "is" (dropBlanks (" is (".toList ++ rest)) =
        some (' ' :: '(' :: rest) := fun _ => rfl
    rw [closed, Option.bind_some, bodyLabel?, keyword]
    simp only [Option.bind_eq_bind, Option.bind_some, lastLabel?_word]
    rfl
  have first : ∀ character ∈ condition.characters, ∀ behind,
      (expect ")" (character :: behind)).bind bodyLabel? = none := by
    intro character member behind
    cases found : expect ")" (character :: behind) with
    | none => rfl
    | some rest =>
      have stands : character :: behind = ')' :: rest := eq_of_expect rfl found
      obtain ⟨rfl, _⟩ := List.cons.inj stands
      exact absurd member (condition.not_mem (by decide))
  rw [whileLoop?_eq, shortest1_of_first condition.nonempty condition.inLine_of_mem succeeds
    first, Option.bind_some, labelOf_word]

/-- A form reads a line that no form before it reads. The form is given by its index in
the order in which forms are tried. -/
theorem findSome?_of_form (index : Nat) {form : List Char → Option Statement}
    {later : List (List Char → Option Statement)} {line : List Char} {statement : Statement}
    (here : forms.drop index = form :: later)
    (earlier : (forms.take index).findSome? (fun form => form line) = none)
    (read : form line = some statement) :
    forms.findSome? (fun form => form line) = some statement := by
  rw [← List.take_append_drop index forms, List.findSome?_append, earlier, here,
    List.findSome?_cons, read]
  rfl

end Statement

/-- A text is no directive, does not concern a note, and is read as a statement. -/
structure Reads (text : String) (statement : Statement) : Prop where
  content : isDirective directives text = false
  opensNoNote : (expect "note " text.toList).isSome = false
  closesNoNote : (text == "end note") = false
  read : Statement.ofLine? text = some statement

/-- The same, for the characters of a text. -/
theorem Reads.of_characters {text : String} {statement : Statement} (characters : List Char)
    (same : text.toList = characters) (nonempty : characters.isEmpty = false)
    (content : beginsWithAny directives characters = false)
    (opensNoNote : (expect "note " characters).isSome = false)
    (closesNoNote : (characters == "end note".toList) = false)
    (read : Statement.forms.findSome? (fun form => form characters) = some statement) :
    Reads text statement := by
  refine ⟨?_, by rw [same]; exact opensNoNote, ?_, by rw [Statement.ofLine?, same]; exact read⟩
  · have filled : text.isEmpty = false := by simpa [← same] using nonempty
    rw [isDirective, filled, same, content]
    rfl
  · rw [← same] at closesNoNote
    have other := beq_eq_false_iff_ne.mp closesNoNote
    exact beq_eq_false_iff_ne.mpr fun equal => other (by rw [equal])

/-- A printed line is read as its statement. -/
theorem Line.reads (line : Line) : Reads line.text line.statement := by
  -- Where a line holds words, the first characters, which are fixed, rule out directives,
  -- notes and all earlier forms; each of these facts holds by evaluation.
  cases line with
  | start => exact ⟨by decide, by decide, by decide, by decide⟩
  | stop => exact ⟨by decide, by decide, by decide, by decide⟩
  | fork => exact ⟨by decide, by decide, by decide, by decide⟩
  | action label =>
    refine .of_characters (':' :: (label.characters ++ [';'])) ?_ rfl rfl rfl rfl
      (Statement.findSome?_of_form 6 rfl rfl (Statement.action?_word label))
    simp [text, Word.toList_text]
  | ifThen condition branch =>
    refine .of_characters _ ?_ rfl rfl rfl rfl
      (Statement.findSome?_of_form 7 rfl rfl (Statement.branch?_words "if" _ condition branch))
    simp [text, Word.toList_text]
  | elseIf condition branch =>
    refine .of_characters _ ?_ rfl rfl rfl rfl
      (Statement.findSome?_of_form 8 rfl rfl (Statement.branch?_words "elseif" _ condition branch))
    simp [text, Word.toList_text]
  | elseBranch branch =>
    refine .of_characters _ ?_ rfl rfl rfl rfl
      (Statement.findSome?_of_form 9 rfl rfl (Statement.elseBranch?_word branch))
    simp [text, Word.toList_text]
  | endIf => exact ⟨by decide, by decide, by decide, by decide⟩
  | whileLoop condition branch =>
    refine .of_characters _ ?_ rfl rfl rfl rfl
      (Statement.findSome?_of_form 11 rfl rfl (Statement.whileLoop?_words condition branch))
    simp [text, Word.toList_text]
  | endWhile => exact ⟨by decide, by decide, by decide, by decide⟩

namespace Progress

/-- Statements leave notes alone. -/
theorem apply_note (progress : Progress) (statement : Statement) :
    (progress.apply statement).note = progress.note := by
  cases statement with
  | lane color label =>
    simp only [apply, enterLane]
    split <;> rfl
  | closePartition =>
    simp only [apply, closePartition]
    split <;> rfl
  | elseIf condition branch =>
    simp only [apply, addBranch]
    split <;> rfl
  | elseBranch branch =>
    simp only [apply, addBranch]
    split <;> rfl
  | endIf =>
    simp only [apply, closeDecision]
    split <;> rfl
  | _ => rfl

/-- Outside of notes a line that is read as a statement carries it out. -/
theorem readLine_of_reads {progress : Progress} (outside : progress.note.active = false)
    {text : String} {statement : Statement} (reads : Reads text statement) :
    progress.readLine text = progress.apply statement := by
  simp [readLine, reads.opensNoNote, reads.closesNoNote, outside, reads.read]

/-- Outside of notes printed lines carry out their statements. -/
theorem readLines_of_printed {progress : Progress} (outside : progress.note.active = false)
    (lines : List Line) :
    (lines.map Line.text).foldl readLine progress =
      (lines.map Line.statement).foldl apply progress := by
  induction lines generalizing progress with
  | nil => rfl
  | cons line others inductionHypothesis =>
    have still : (progress.apply line.statement).note.active = false := by
      rw [apply_note]
      exact outside
    simp only [List.map_cons, List.foldl_cons]
    rw [readLine_of_reads outside line.reads, inductionHypothesis still]

end Progress

/-- A printed activity is what its statements make of nothing. -/
theorem ofLines_printed (lines : List Line) :
    ofLines (lines.map Line.text) =
      ((lines.map Line.statement).foldl Progress.apply {}).finish := by
  have kept : (lines.map Line.text).filter (fun line => !isDirective directives line) =
      lines.map Line.text := by
    refine List.filter_eq_self.mpr ?_
    intro text member
    obtain ⟨line, _, rfl⟩ := List.mem_map.mp member
    simp [line.reads.content]
  rw [ofLines, kept, Progress.readLines_of_printed rfl]

end Drafting.ActivityDiagram
