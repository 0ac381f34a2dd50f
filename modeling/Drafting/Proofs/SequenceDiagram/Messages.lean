import Drafting.Proofs.SequenceDiagram.Registration
import Drafting.Proofs.Text.Keyword
import Drafting.Proofs.Text.Lines
import Mathlib.Data.List.Dedup
import Mathlib.Data.List.DropRight
import Mathlib.Data.List.TakeWhile

/-!
# Lines that send messages

A line that names a source and a target with an arrow between them, and a text behind a colon,
is offered to every other form of a statement before it is read as a message. Most of them
cannot take it, whatever its words are: they ask for a quoted or a plain name where the arrow
stands. Three forms look at the beginning of the line only. Two of them ask for a blank behind
their keyword and take the line if the source is this keyword; the opposite case of an
alternative takes it also if the source merely begins with its keyword.

The main statement says when the line sends its message and changes nothing else.
-/

namespace Drafting.SequenceDiagram

open Text

/-- What a line says that sends a text from one word to another. -/
structure Sending where
  source : Word
  target : Word
  arrow : List Char
  text : List Char
  nonempty : arrow ≠ []
  marks : ∀ character ∈ arrow, Statement.isArrow character = true
  oneLine : ∀ character ∈ text, inLine character = true

namespace Sending

variable (sending : Sending)

/-- The line that says it. -/
def line : String :=
  sending.source.text ++ " " ++ String.ofList sending.arrow ++ " " ++ sending.target.text ++
    " : " ++ String.ofList sending.text

/-- The message line that it is read as. -/
def messageLine : MessageLine :=
  { source := sending.source.text, target := sending.target.text
    arrow := String.ofList sending.arrow, text := String.ofList (trim sending.text) }

/-- What stands behind the target. -/
def behindTarget : List Char := ' ' :: ':' :: ' ' :: sending.text

/-- What stands behind the arrow and a blank. -/
def behindArrow : List Char := sending.target.characters ++ sending.behindTarget

/-- What stands behind the source and a blank. -/
def behindSource : List Char := sending.arrow ++ ' ' :: sending.behindArrow

/-- The characters of the line. -/
theorem toList_line :
    sending.line.toList = sending.source.characters ++ ' ' :: sending.behindSource := by
  simp [line, behindSource, behindArrow, behindTarget, Word.toList_text]

/-- The line holds a colon, so it is none of the lines that consist of keywords. -/
theorem ne_of_no_colon {other : List Char} (noColon : ':' ∉ other) :
    sending.source.characters ++ ' ' :: sending.behindSource ≠ other := by
  rintro rfl
  apply noColon
  simp [behindSource, behindArrow, behindTarget]

end Sending

namespace Statement

/-- A character of an arrow is neither a blank nor part of a word, and no quotation mark. -/
theorem other_of_isArrow {character : Char} (mark : isArrow character = true) :
    isBlank character = false ∧ isWord character = false ∧ character ≠ '\x22' := by
  simp only [isArrow, Bool.or_eq_true, beq_iff_eq] at mark
  rcases mark with ((rfl | rfl) | rfl) | rfl <;> decide

/-- A character of a word is part of no arrow. -/
theorem isArrow_of_isWord {character : Char} (letter : isWord character = true) :
    isArrow character = false := by
  cases mark : isArrow character with
  | false => rfl
  | true =>
    have foreign := (other_of_isArrow mark).2.1
    rw [letter] at foreign
    contradiction

/-- Behind the source and a blank the arrow begins. -/
theorem begins_behindSource (sending : Sending) :
    ∃ mark others, sending.behindSource = mark :: others ∧ isArrow mark = true := by
  obtain ⟨mark, others, whole⟩ := List.exists_cons_of_ne_nil sending.nonempty
  refine ⟨mark, others ++ ' ' :: sending.behindArrow, ?_, ?_⟩
  · rw [Sending.behindSource, whole, List.cons_append]
  · exact sending.marks mark (by simp [whole])

/-- So there are no blanks to skip. -/
theorem dropBlanks_behindSource (sending : Sending) :
    dropBlanks sending.behindSource = sending.behindSource := by
  obtain ⟨mark, others, begins, isMark⟩ := begins_behindSource sending
  rw [begins]
  exact dropBlanks_cons_of_not_blank others (other_of_isArrow isMark).1

/-- Where blanks are skipped behind the keyword of a declaration, the arrow begins. -/
theorem begins_behind_keyword (sending : Sending) {written rest behind : List Char}
    (read : firstKeyword declarationKeywords
      (sending.source.characters ++ ' ' :: sending.behindSource) = some (written, rest))
    (skipped : skipBlanks? rest = some behind) :
    ∃ mark others, behind = mark :: others ∧ isArrow mark = true := by
  obtain ⟨keyword, member, spelled⟩ := List.exists_of_findSome?_eq_some read
  have unbroken : ' ' ∉ keyword.toList := by
    simp only [declarationKeywords, List.mem_cons, List.not_mem_nil, or_false] at member
    rcases member with rfl | rfl <;> decide
  rcases sending.source.behind_keyword unbroken spelled with
    ⟨_, rfl⟩ | ⟨character, others, rfl, visible⟩
  · obtain rfl : dropBlanks sending.behindSource = behind := Option.some.inj skipped
    rw [dropBlanks_behindSource]
    exact begins_behindSource sending
  · simp [skipBlanks?, visible] at skipped

/-- The line declares no participant with a quoted label. -/
theorem quotedDeclaration?_line (sending : Sending) :
    quotedDeclaration? (sending.source.characters ++ ' ' :: sending.behindSource) = none := by
  rw [quotedDeclaration?]
  cases read : firstKeyword declarationKeywords
      (sending.source.characters ++ ' ' :: sending.behindSource) with
  | none => rfl
  | some found =>
    cases skipped : skipBlanks? found.2 with
    | none => simp [skipped]
    | some behind =>
      obtain ⟨mark, others, rfl, isMark⟩ := begins_behind_keyword sending read skipped
      have quote : "\x22".toList.head? = some '\x22' := rfl
      have noQuote : expect "\x22" (mark :: others) = none :=
        expect_eq_none quote (by simpa using (other_of_isArrow isMark).2.2)
      simp [skipped, noQuote]

/-- Nor does it declare one with a plain label. -/
theorem plainDeclaration?_line (sending : Sending) :
    plainDeclaration? (sending.source.characters ++ ' ' :: sending.behindSource) = none := by
  rw [plainDeclaration?]
  cases read : firstKeyword declarationKeywords
      (sending.source.characters ++ ' ' :: sending.behindSource) with
  | none => rfl
  | some found =>
    cases skipped : skipBlanks? found.2 with
    | none => simp [skipped]
    | some behind =>
      obtain ⟨mark, others, rfl, isMark⟩ := begins_behind_keyword sending read skipped
      have noWord : word? (mark :: others) = none := by
        simp [word?, run?, (other_of_isArrow isMark).2.1]
      simp [skipped, noWord]

/-- A word without quotation marks is an end of a message if the rest can be read behind it, and
nowhere within it. -/
theorem messageEnd_append {α : Type} (word : Word) {rest : List Char}
    {next : List Char → Option α} {found : α}
    (unquoted : ∀ character ∈ rest.head?, character ≠ '\x22')
    (succeeds : next rest = some found)
    (first : ∀ character ∈ word.characters, ∀ behind, next (character :: behind) = none) :
    messageEnd (word.characters ++ rest) next = some (word.characters, found) := by
  have noQuote : isWord '\x22' = false := by decide
  rw [messageEnd, word.optionally_append noQuote]
  refine shortest1_of_first word.nonempty ?_ ?_ ?_
  · intro character member
    simpa using word.ne_of_mem noQuote member
  · rw [optionally_of_ne unquoted, succeeds]
  · intro character member behind
    rw [optionally_of_ne (by simpa using word.ne_of_mem noQuote member), first character member]

/-- The text of a message is read to the end of the line and trimmed. -/
theorem messageText?_of_inLine {text : List Char}
    (oneLine : ∀ character ∈ text, inLine character = true) :
    messageText? text = some (trim text) := by
  have within : ∀ character ∈ dropBlanks text, inLine character = true :=
    fun character member => oneLine character ((dropBlanks_suffix text).subset member)
  have nothing : (dropBlanks text).dropWhile inLine = [] := List.dropWhile_eq_nil_iff.mpr within
  have whole : (dropBlanks text).takeWhile inLine = dropBlanks text :=
    List.takeWhile_eq_self_iff.mpr within
  have twice : dropBlanks (dropBlanks text) = dropBlanks text := List.dropWhile_idempotent _ _
  apply anyBlanks_of_dropBlanks
  rw [nothing, whole, trim, trim, twice]
  rfl

/-- Behind the source the arrow is read as a whole, and blanks on both sides of it. -/
theorem arrow_read {α : Type} (sending : Sending) {next : List Char → Option α} {found : α}
    (succeeds : next sending.behindArrow = some found) :
    (anyBlanks (' ' :: sending.behindSource) fun rest =>
      longest1 isArrow rest fun rest => anyBlanks rest next) = some (sending.arrow, found) := by
  have skipped : dropBlanks (' ' :: sending.behindSource) = sending.behindSource :=
    dropBlanks_behindSource sending
  have blank : ∀ character ∈ [' '], isBlank character = true := List.all_eq_true.mp (by decide)
  have behind : anyBlanks ([' '] ++ sending.behindArrow) next = some found :=
    sending.target.anyBlanks_append blank succeeds
  apply anyBlanks_of_dropBlanks
  rw [skipped]
  exact longest1_of_forced sending.nonempty sending.marks (refused_of_head? rfl (by decide)) behind

/-- Behind the arrow the target and the text are read. -/
theorem target_read (sending : Sending) :
    messageEnd sending.behindArrow
      (fun rest => do messageText? (← expect ":" (dropBlanks rest))) =
        some (sending.target.characters, trim sending.text) := by
  have noColon : isWord ':' = false := by decide
  have colon : ":".toList.head? = some ':' := rfl
  refine messageEnd_append sending.target (by simp [Sending.behindTarget]) ?_ ?_
  · have kept : trim (' ' :: sending.text) = trim sending.text := trim_cons_of_blank rfl _
    rw [← kept]
    refine messageText?_of_inLine ?_
    simpa [inLine] using sending.oneLine
  · intro character member behind
    have visible := isBlank_of_isWord (sending.target.letters character member)
    rw [dropBlanks_cons_of_not_blank behind visible,
      expect_eq_none colon (by simpa using sending.target.ne_of_mem noColon member)]
    rfl

/-- The line is read as its message. -/
theorem message?_line (sending : Sending) :
    message? (sending.source.characters ++ ' ' :: sending.behindSource) =
      some (.message sending.messageLine) := by
  rw [message?, messageEnd_append sending.source (by simp)
    (arrow_read sending (target_read sending))]
  · simp [Sending.messageLine, Word.trim_characters, Word.text]
  · intro character member behind
    have letter := sending.source.letters character member
    have noArrow := isArrow_of_isWord letter
    simp [anyBlanks, longest, longest1, isBlank_of_isWord letter, noArrow]

/-- The line opens an alternative exactly if its source is the keyword for that. -/
theorem openAlternative?_line (sending : Sending) :
    openAlternative? (sending.source.characters ++ ' ' :: sending.behindSource) =
      if sending.source.text = "alt" then
        some (.openAlternative (String.ofList (trim sending.behindSource)))
      else none := by
  have blank : "alt " = "alt" ++ " " := rfl
  rw [openAlternative?, blank, sending.source.expect_blank (by decide)]
  split <;> rfl

/-- The line begins with the keyword of the opposite case exactly if its source does. -/
theorem isSome_expect_else_iff (sending : Sending) :
    (expect "else" (sending.source.characters ++ ' ' :: sending.behindSource)).isSome ↔
      "else".toList <+: sending.source.characters := by
  rw [isSome_expect_iff]
  constructor
  · intro begins
    exact sending.source.prefix_of_prefix_append (List.all_eq_true.mp (by decide))
      (by simp; decide) begins
  · intro begins
    exact begins.trans (List.prefix_append _ _)

/-- The line is the beginning of an alternative or of its opposite case where its source is like
their keywords, and else its message. -/
theorem ofLine?_line (sending : Sending) :
    ofLine? sending.line = some (
      if sending.source.text = "alt" then
        .openAlternative (String.ofList (trim sending.behindSource))
      else if "else".toList <+: sending.source.characters then .otherwise
      else .message sending.messageLine) := by
  have equality : "==".toList.head? = some '=' := rfl
  have noGroup : group? (sending.source.characters ++ ' ' :: sending.behindSource) = none := by
    rw [group?, expect_eq_none equality (sending.source.ne_of_head? (by decide) _)]
    rfl
  have noEnd : (sending.source.characters ++ ' ' :: sending.behindSource == "end".toList) =
      false := beq_eq_false_iff_ne.mpr (sending.ne_of_no_colon (by decide))
  have otherwise := isSome_expect_else_iff sending
  rw [ofLine?, sending.toList_line, forms, List.findSome?_cons, noGroup, List.findSome?_cons,
    openAlternative?_line]
  by_cases alternative : sending.source.text = "alt"
  · rw [if_pos alternative, if_pos alternative]
  · rw [if_neg alternative, if_neg alternative, List.findSome?_cons]
    dsimp only
    by_cases begins : "else".toList <+: sending.source.characters
    · obtain ⟨rest, found⟩ := Option.isSome_iff_exists.mp (otherwise.mpr begins)
      rw [if_pos begins, found, Option.map_some]
    · have notFound := Option.not_isSome_iff_eq_none.mp (fun found => begins (otherwise.mp found))
      rw [if_neg begins, notFound, Option.map_none, List.findSome?_cons]
      dsimp only
      rw [noEnd, if_neg Bool.false_ne_true, List.findSome?_cons, quotedDeclaration?_line,
        List.findSome?_cons, plainDeclaration?_line, List.findSome?_cons, message?_line]

end Statement

namespace Progress

/-- A line that sends a message is read by the first rule that takes it, and the message is the
last of these. -/
theorem readLine_line (progress : Progress) (sending : Sending) :
    progress.readLine sending.line = .ok (
      if sending.source.text = "note" then { progress with note := Note.start sending.line }
      else if progress.note.active then { progress with note := progress.note.add sending.line }
      else if sending.source.text = "alt" then
        progress.openAlternative (String.ofList (trim sending.behindSource))
      else if "else".toList <+: sending.source.characters then progress.otherwise
      else progress.addMessage sending.messageLine) := by
  have blank : "note " = "note" ++ " " := rfl
  have noEnd : (sending.line == "end note") = false := by
    rw [beq_eq_false_iff_ne]
    intro same
    have characters := congrArg String.toList same
    rw [sending.toList_line] at characters
    exact sending.ne_of_no_colon (by decide) characters
  rw [readLine, sending.toList_line, blank, sending.source.expect_blank (by decide), noEnd,
    Statement.ofLine?_line]
  by_cases note : sending.source.text = "note"
  · rw [if_pos note, if_pos note]
    rfl
  · rw [if_neg note, if_neg note]
    cases progress.note.active with
    | true => rfl
    | false =>
      by_cases alternative : sending.source.text = "alt"
      · rw [if_pos alternative, if_pos alternative]
        rfl
      · rw [if_neg alternative, if_neg alternative]
        by_cases begins : "else".toList <+: sending.source.characters
        · rw [if_pos begins, if_pos begins]
          rfl
        · rw [if_neg begins, if_neg begins]
          rfl

/-- A participant that is known by its name only. -/
def newcomer (name : String) : Participant := { name, label := name }

/-- Registering a name adds a participant for it if it is new, and changes nothing else. -/
theorem register_name (progress : Progress) (name : String) :
    progress.register name name .participant =
      { progress with diagram := { progress.diagram with
          participants := progress.diagram.participants ++
            ([name].filter fun name => name ∉ progress.diagram.names).map newcomer } } := by
  have isKnown : (progress.diagram.participants.any fun participant =>
      participant.name == name) = true ↔ name ∈ progress.diagram.names := by
    simp [SequenceDiagram.names]
  by_cases known : name ∈ progress.diagram.names
  · rw [register, if_pos (isKnown.mpr known)]
    simp [known]
  · rw [register, if_neg (fun found => known (isKnown.mp found))]
    simp [known, newcomer]

/-- The names are then those from before and this one if it is new. -/
theorem names_register_name (progress : Progress) (name : String) :
    (progress.register name name .participant).diagram.names =
      progress.diagram.names ++ [name].filter fun name => name ∉ progress.diagram.names := by
  rw [register_name, SequenceDiagram.names, List.map_append, List.map_map]
  exact congrArg (progress.diagram.names ++ ·) (List.map_id _)

/-- To enter two names one after the other is to enter those of them that are new once each. -/
theorem filter_pair (names : List String) (first second : String) :
    ([first].filter fun name => name ∉ names) ++
        ([second].filter fun name => name ∉ names ++ [first].filter fun name => name ∉ names) =
      [first, second].dedup.filter fun name => name ∉ names := by
  by_cases same : first = second
  · subst same
    have once : [first, first].dedup = [first] :=
      List.dedup_cons_of_mem (List.mem_singleton_self _)
    by_cases known : first ∈ names
    · simp [once, known]
    · simp [once, known]
  · have both : [first, second].dedup = [first, second] :=
      List.Nodup.dedup (by simpa using same)
    by_cases known : first ∈ names
    · simp [both, known]
    · simp [both, known, List.filter_cons, Ne.symm same]

/-- A message adds participants for those of its ends that are new. -/
theorem participants_addMessage (progress : Progress) (line : MessageLine) :
    (progress.addMessage line).diagram.participants =
      progress.diagram.participants ++
        ([line.source, line.target].dedup.filter fun name =>
          name ∉ progress.diagram.names).map newcomer := by
  have registered : (progress.addMessage line).diagram.participants =
      ((progress.register line.source line.source .participant).register line.target line.target
        .participant).diagram.participants := rfl
  rw [registered, register_name (progress.register ..), names_register_name, register_name,
    ← filter_pair, List.map_append, ← List.append_assoc]

end Progress

/-- The second state is the first after the message was sent: it has one more message, between
the two words and with the trimmed text, and a participant for each of the words that had none.
Separators and alternatives are as they were. -/
structure Sent (sending : Sending) (before after : Progress) : Prop where
  messages : ∃ message : Message,
    after.diagram.messages = before.diagram.messages ++ [message] ∧
      message.id = before.diagram.messages.length ∧ message.source = sending.source.text ∧
      message.target = sending.target.text ∧ message.text = String.ofList (trim sending.text) ∧
      message.note = none
  participants : after.diagram.participants = before.diagram.participants ++
    ([sending.source.text, sending.target.text].dedup.filter fun name =>
      name ∉ before.diagram.names).map Progress.newcomer
  groups : after.diagram.groups = before.diagram.groups
  fragments : after.diagram.fragments = before.diagram.fragments
  alternatives : after.alternatives = before.alternatives
  note : after.note = before.note

namespace Sent

/-- A message that was sent is one more. -/
theorem ne_messages {sending : Sending} {before after : Progress}
    (sent : Sent sending before after) : after.diagram.messages ≠ before.diagram.messages := by
  obtain ⟨message, added, _⟩ := sent.messages
  rw [added]
  simp

/-- A message line that is carried out sends its message. -/
theorem addMessage (progress : Progress) (sending : Sending) :
    Sent sending progress (progress.addMessage sending.messageLine) := by
  obtain ⟨participants, registered⟩ : ∃ participants,
      (progress.register sending.source.text sending.source.text .participant).register
        sending.target.text sending.target.text .participant =
      { progress with diagram := { progress.diagram with participants } } := by
    rw [Progress.register_name, Progress.register_name]
    exact ⟨_, rfl⟩
  have others := progress.participants_addMessage sending.messageLine
  rw [Progress.addMessage, Sending.messageLine] at others ⊢
  dsimp only at others ⊢
  rw [registered] at others ⊢
  exact ⟨⟨_, rfl, rfl, rfl, rfl, rfl, rfl⟩, others, rfl, rfl, rfl, rfl⟩

end Sent

/-- Outside of notes the line sends its message exactly if its source is neither of the keywords
that a blank ends and does not begin with the keyword of the opposite case. A source that begins
so begins the opposite case instead, whatever follows in the word. -/
theorem message_sent_iff (progress : Progress) (sending : Sending) :
    ((∃ next, progress.readLine sending.line = .ok next ∧ Sent sending progress next) ↔
      progress.note.active = false ∧ sending.source.text ≠ "note" ∧
        sending.source.text ≠ "alt" ∧ ¬ "else".toList <+: sending.source.characters) ∧
      (progress.note.active = false → "else".toList <+: sending.source.characters →
        progress.readLine sending.line = .ok progress.otherwise) := by
  have read := progress.readLine_line sending
  have sameMessages : progress.otherwise.diagram.messages = progress.diagram.messages := by
    rw [Progress.otherwise]
    split <;> rfl
  refine ⟨⟨?_, ?_⟩, ?_⟩
  · rintro ⟨next, reached, sent⟩
    rw [read] at reached
    have different := sent.ne_messages
    rw [← Except.ok.inj reached] at different
    -- every rule but the last leaves the messages as they are
    split at different
    · exact absurd rfl different
    · next note =>
      split at different
      · exact absurd rfl different
      · next inactive =>
        split at different
        · exact absurd rfl different
        · next alternative =>
          split at different
          · exact absurd sameMessages different
          · next begins => exact ⟨by simpa using inactive, note, alternative, begins⟩
  · rintro ⟨inactive, note, alternative, begins⟩
    refine ⟨_, read, ?_⟩
    rw [if_neg note, if_neg (by simp [inactive]), if_neg alternative, if_neg begins]
    exact Sent.addMessage progress sending
  · intro inactive begins
    have other {keyword : String} (differs : ¬ "else".toList <+: keyword.toList) :
        sending.source.text ≠ keyword := by
      rintro rfl
      rw [Word.toList_text] at differs
      exact differs begins
    rw [read, if_neg (other (by decide)), if_neg (by simp [inactive]), if_neg (other (by decide)),
      if_pos begins]

/-- A source that begins with the keyword of the opposite case sends nothing. -/
theorem elsevier_sends_nothing : ofLines ["elsevier -> B : hi"] = .ok {} := by
  decide

end Drafting.SequenceDiagram
