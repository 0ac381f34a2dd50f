import Drafting.ActivityDiagram.Reader
import Drafting.Proofs.StateDiagram.Transitions
import Drafting.Proofs.Text.Lines
import Drafting.SequenceDiagram.Reader
import Mathlib.Data.List.ModifyLast

/-!
# Texts of notes

Three readers collect notes, and each begins one in its own way. That of activities takes the
position out of the line that opens the note and cuts the margins of the lines behind it. That
of sequences keeps the line that opens the note. That of states looks for openings by a rule of
its own, which allows any blanks between the words, so a line within a note may open another
one there.

What an open note collects is the same for all of them, and it is proved once: as long as no
line closes or opens a note, its text grows by one line at a time. The main statement gives the
text that a block of lines leaves with the last step, the last message or the named state, and
says that nothing else changes.
-/

namespace Drafting

open Text

/-- A line as it may stand in a note: trimmed and not empty, and it neither closes the note nor
begins like one that opens another. -/
structure IsNoteLine (line : String) : Prop where
  nonempty : line.toList ≠ []
  trimmed : trim line.toList = line.toList
  noLineFeed : '\n' ∉ line.toList
  closesNot : (line == "end note") = false
  opensNot : expect "note " line.toList = none

instance (line : String) : Decidable (IsNoteLine line) :=
  decidable_of_iff
    (line.toList ≠ [] ∧ trim line.toList = line.toList ∧ '\n' ∉ line.toList ∧
      (line == "end note") = false ∧ expect "note " line.toList = none)
    ⟨fun ⟨nonempty, trimmed, noLineFeed, closesNot, opensNot⟩ =>
        ⟨nonempty, trimmed, noLineFeed, closesNot, opensNot⟩,
      fun ⟨nonempty, trimmed, noLineFeed, closesNot, opensNot⟩ =>
        ⟨nonempty, trimmed, noLineFeed, closesNot, opensNot⟩⟩

/-- A line that opens a note, the lines of its body, and the line that closes it. -/
def noteBlock (opening : String) (body : List String) : List String :=
  opening :: (body ++ ["end note"])

/-- A run that adds each line of a body to the open note adds all of them. -/
theorem Note.collect {σ ρ : Type} (run : σ → List String → ρ) (holding : Note → σ)
    (body : List String)
    (adds : ∀ note : Note, note.active = true → ∀ line ∈ body, ∀ rest,
      run (holding note) (line :: rest) = run (holding (note.add line)) rest)
    (note : Note) (active : note.active = true) (rest : List String) :
    run (holding note) (body ++ rest) = run (holding ⟨true, note.lines ++ body⟩) rest := by
  induction body generalizing note with
  | nil =>
    obtain ⟨isActive, lines⟩ := note
    obtain rfl : isActive = true := active
    rw [List.nil_append, List.append_nil]
  | cons line others inductionHypothesis =>
    have later := inductionHypothesis
      (fun note active line member => adds note active line (List.mem_cons_of_mem _ member))
      (note.add line) active
    rw [List.cons_append, adds note active line List.mem_cons_self, later, Note.add,
      List.append_assoc, List.singleton_append]

namespace ActivityDiagram.Progress

/-- Within a line there are no margins. -/
theorem dropMargins_append {text : List Char} (noLineFeed : '\n' ∉ text) (rest : List Char) :
    dropMargins false (text ++ rest) = text ++ dropMargins false rest := by
  induction text with
  | nil => rfl
  | cons character others inductionHypothesis =>
    have other : (character == '\n') = false :=
      beq_false_of_ne fun same => noLineFeed (by simp [same])
    have later := inductionHypothesis fun member => noLineFeed (List.mem_cons_of_mem _ member)
    simp [dropMargins, other, later]

/-- A trimmed line has no margin. -/
theorem dropMargins_line {text : List Char} (nonempty : text ≠ []) (trimmed : trim text = text)
    (noLineFeed : '\n' ∉ text) (rest : List Char) :
    dropMargins true (text ++ rest) = text ++ dropMargins false rest := by
  obtain ⟨first, others, rfl⟩ := List.exists_cons_of_ne_nil nonempty
  have visible := isBlank_of_trim_cons trimmed
  have other : (first == '\n') = false := beq_false_of_ne fun same => noLineFeed (by simp [same])
  have later := dropMargins_append (fun member => noLineFeed (List.mem_cons_of_mem _ member)) rest
  simpa [dropMargins, visible, other] using later

/-- So nothing is cut from trimmed lines that are put together. -/
theorem dropMargins_join {pieces : List (List Char)}
    (lines : ∀ piece ∈ pieces, piece ≠ [] ∧ trim piece = piece ∧ '\n' ∉ piece) :
    dropMargins true (join ['\n'] pieces) = join ['\n'] pieces := by
  induction pieces with
  | nil => rfl
  | cons piece others inductionHypothesis =>
    obtain ⟨nonempty, trimmed, noLineFeed⟩ := lines piece List.mem_cons_self
    have later := inductionHypothesis fun other member =>
      lines other (List.mem_cons_of_mem _ member)
    cases others with
    | nil => simpa [join, dropMargins] using dropMargins_line nonempty trimmed noLineFeed []
    | cons next further =>
      have whole : join ['\n'] (piece :: next :: further) =
          piece ++ '\n' :: join ['\n'] (next :: further) := by simp [join]
      have begins : dropMargins false ('\n' :: join ['\n'] (next :: further)) =
          '\n' :: dropMargins true (join ['\n'] (next :: further)) := rfl
      rw [whole, dropMargins_line nonempty trimmed noLineFeed, begins, later]

/-- A note that is closed is that of the last step. -/
theorem attachNote_eq (progress : Progress) :
    progress.attachNote =
      { progress with
        diagram := { progress.diagram with
          activities := progress.diagram.activities.modifyLast fun last => { last with
            note := some (String.ofList (dropMargins true progress.note.text.toList)) } }
        note := {} } := by
  rcases List.eq_nil_or_concat progress.diagram.activities with empty | ⟨before, last, activities⟩
  · simp [attachNote, Note.closed, empty, List.modifyLast, List.modifyLast.go]
  · simp [attachNote, Note.closed, activities, List.modifyLast_concat]

/-- A note whose opening names nothing but its position gives its lines to the last step. -/
theorem foldl_noteBlock {progress : Progress} {before : List Activity} {last : Activity}
    (activities : progress.diagram.activities = before ++ [last]) {body : List String}
    (lines : ∀ line ∈ body, IsNoteLine line) :
    (noteBlock "note right" body).foldl readLine progress =
      { progress with
        diagram := { progress.diagram with
          activities := before ++ [{ last with note := some (joinStrings "\n" body) }] }
        note := {} } := by
  have opened : progress.readLine "note right" = { progress with note := Note.start "" } := rfl
  have collected := Note.collect (fun progress lines => lines.foldl readLine progress)
    (fun note => { progress with note }) body
    (fun note active line member rest => by
      have isLine := lines line member
      simp [readLine, isLine.opensNot, isLine.closesNot, active]) (Note.start "") rfl
    ["end note"]
  have text : dropMargins true (join ['\n'] (body.map String.toList)) =
      join ['\n'] (body.map String.toList) := by
    refine dropMargins_join ?_
    intro piece member
    obtain ⟨line, inside, rfl⟩ := List.mem_map.mp member
    have isLine := lines line inside
    exact ⟨isLine.nonempty, isLine.trimmed, isLine.noLineFeed⟩
  have closed (progress : Progress) : progress.readLine "end note" = progress.attachNote := rfl
  rw [noteBlock, List.foldl_cons, opened]
  rw [collected, List.foldl_cons, List.foldl_nil, closed, attachNote_eq]
  simp [activities, List.modifyLast_concat, Note.text, Note.start, joinStrings, text]

end ActivityDiagram.Progress

namespace SequenceDiagram.Progress

/-- A note that is closed is that of the last message. -/
theorem attachNote_eq (progress : Progress) :
    progress.attachNote =
      { progress with
        diagram := { progress.diagram with
          messages := progress.diagram.messages.modifyLast fun last => { last with
            note := some progress.note.text } }
        note := {} } := by
  rcases List.eq_nil_or_concat progress.diagram.messages with empty | ⟨before, last, messages⟩
  · simp [attachNote, Note.closed, empty, List.modifyLast, List.modifyLast.go]
  · simp [attachNote, Note.closed, messages, List.modifyLast_concat]

/-- A note gives its lines to the last message, with the line that opened it before them. -/
theorem readLines_noteBlock {progress : Progress} {before : List Message} {last : Message}
    (messages : progress.diagram.messages = before ++ [last]) {body : List String}
    (lines : ∀ line ∈ body, IsNoteLine line) :
    progress.readLines (noteBlock "note right" body) = .ok
      { progress with
        diagram := { progress.diagram with
          messages := before ++
            [{ last with note := some (joinStrings "\n" ("note right" :: body)) }] }
        note := {} } := by
  have collected := Note.collect readLines (fun note => { progress with note })
    body
    (fun note active line member rest => by
      have isLine := lines line member
      simp [readLines, readLine, isLine.opensNot, isLine.closesNot, active])
    (Note.start "note right") rfl ["end note"]
  have opened : progress.readLine "note right" =
      .ok { progress with note := Note.start "note right" } := rfl
  have closed (progress : Progress) : progress.readLine "end note" = .ok progress.attachNote := rfl
  rw [noteBlock, readLines, opened]
  dsimp only
  rw [collected, readLines, closed]
  dsimp only
  rw [attachNote_eq, messages, List.modifyLast_concat]
  rfl

end SequenceDiagram.Progress

namespace StateDiagram.Progress

/-- The states with a given key have a note of this text, and no note is open. -/
def withNote (progress : Progress) (key text : String) : Progress :=
  { diagram := { progress.diagram with
      states := progress.diagram.states.map fun state =>
        if state.key = key then { state with note := some text } else state }
    note := {}
    noteTarget := none }

/-- A line that names the state of a note opens a note for that state. -/
theorem readLine_opening {line : String} {name : List Char}
    (target : notedState? line.toList = some name) (progress : Progress) :
    progress.readLine line =
      { progress with note := Note.start "", noteTarget := some (String.ofList name) } := by
  simp [readLine, target]

/-- A note gives its lines to the state that its opening names, if no line of it opens another
one. -/
theorem foldl_noteBlock (progress : Progress) {opening : String} {name : List Char}
    (target : notedState? opening.toList = some name) {body : List String}
    (lines : ∀ line ∈ body, IsNoteLine line)
    (own : ∀ line ∈ body, notedState? line.toList = none) :
    (noteBlock opening body).foldl readLine progress =
      progress.withNote (String.ofList name) (joinStrings "\n" body) := by
  have collected := Note.collect (fun progress lines => lines.foldl readLine progress)
    (fun note => { progress with note, noteTarget := some (String.ofList name) })
    body
    (fun note active line member rest => by
      have isLine := lines line member
      simp [readLine, own line member, isLine.opensNot, isLine.closesNot, active])
    (Note.start "") rfl ["end note"]
  have closed (progress : Progress) : progress.readLine "end note" = progress.attachNote := rfl
  rw [noteBlock, List.foldl_cons, readLine_opening target]
  rw [collected, List.foldl_cons, List.foldl_nil, closed]
  simp [attachNote, withNote, Note.text, Note.start, Note.closed]

/-- While a note is open, lines change nothing but the note and the state it is for. -/
theorem foldl_noteLines {progress : Progress} (active : progress.note.active = true)
    {body : List String} (lines : ∀ line ∈ body, IsNoteLine line) :
    ∃ note noteTarget, body.foldl readLine progress = { progress with note, noteTarget } := by
  refine (List.foldlRecOn (motive := fun reached : Progress =>
    reached.note.active = true ∧ ∃ note noteTarget, reached = { progress with note, noteTarget })
    body readLine ⟨active, _, _, rfl⟩ ?_).2
  rintro _ ⟨stillOpen, note, noteTarget, rfl⟩ line member
  have isLine := lines line member
  cases target : notedState? line.toList with
  | some name =>
    rw [readLine_opening target]
    exact ⟨rfl, _, _, rfl⟩
  | none =>
    have added : readLine { progress with note, noteTarget } line =
        { progress with note := note.add line, noteTarget } := by
      simp only at stillOpen
      simp [readLine, target, isLine.opensNot, isLine.closesNot, stillOpen]
    rw [added]
    exact ⟨stillOpen, _, _, rfl⟩

/-- A line of a note that opens another one makes all before it forgotten. -/
theorem foldl_noteBlock_reopened (progress : Progress) {opening reopening : String}
    {name other : List Char} (target : notedState? opening.toList = some name)
    {earlier : List String} (lines : ∀ line ∈ earlier, IsNoteLine line)
    (again : notedState? reopening.toList = some other) (later : List String) :
    (noteBlock opening (earlier ++ reopening :: later)).foldl readLine progress =
      (noteBlock reopening later).foldl readLine progress := by
  have opened := readLine_opening target progress
  have active : (progress.readLine opening).note.active = true := opened ▸ rfl
  obtain ⟨note, noteTarget, kept⟩ := foldl_noteLines active lines
  rw [opened] at kept
  simp only [noteBlock, List.append_assoc, List.cons_append, List.foldl_cons, List.foldl_append,
    readLine_opening target, readLine_opening again, kept]

/-- Keys tell states apart, so a note is that of one state only. -/
theorem withNote_of_split {progress : Progress} (sound : Sound progress.diagram)
    {before after : List State} {state : State}
    (states : progress.diagram.states = before ++ state :: after) (text : String) :
    progress.withNote state.key text =
      { diagram := { progress.diagram with
          states := before ++ { state with note := some text } :: after }
        note := {}
        noteTarget := none } := by
  have distinct := sound.distinct
  rw [keys, states, List.map_append, List.map_cons] at distinct
  obtain ⟨-, behind, apart⟩ := List.nodup_append.mp distinct
  have keep {others : List State} (different : ∀ other ∈ others, other.key ≠ state.key) :
      (others.map fun other =>
        if other.key = state.key then { other with note := some text } else other) = others := by
    refine (List.map_congr_left ?_).trans (List.map_id others)
    intro other member
    exact if_neg (different other member)
  have keepBefore := keep fun other member =>
    apart _ (List.mem_map_of_mem member) _ List.mem_cons_self
  have keepAfter := keep fun other member same =>
    (List.nodup_cons.mp behind).1 (same ▸ List.mem_map_of_mem member)
  rw [withNote, states, List.map_append, List.map_cons, keepBefore, keepAfter, if_pos rfl]

/-- The line that opens a note beside a state names it. -/
theorem notedState?_opening (word : Word) :
    notedState? ("note right of " ++ word.text).toList = some word.characters := by
  have read : word? word.characters = some (word.characters, []) :=
    run?_of_accepted word.nonempty word.letters
  have skipped : skipBlanks? (' ' :: word.characters) = some word.characters :=
    congrArg some word.dropBlanks_characters
  have behindNote : notedState? ("note right of ".toList ++ word.characters) =
      (skipBlanks? (' ' :: word.characters)).bind fun rest =>
        (word? rest).bind fun pair => some pair.1 := rfl
  rw [String.toList_append, word.toList_text, behindNote, skipped]
  simp [read]

end StateDiagram.Progress

/-- Lines that are trimmed and not empty and neither open nor close a note are collected by a
note that they stand in. In any state of the reader of activities they become the note of the
last step. In any state of the reader of sequences they become the note of the last message,
behind the line that opened it. In any state of the reader of states that lines lead to they
become the note of the state that the opening names, unless one of them names a state for a
note: the last of these begins the note anew, for the state that it names. Nothing else
changes. -/
theorem note_blocks_read {body : List String} (lines : ∀ line ∈ body, IsNoteLine line) :
    (∀ (progress : ActivityDiagram.Progress) before last,
      progress.diagram.activities = before ++ [last] →
        (noteBlock "note right" body).foldl ActivityDiagram.Progress.readLine progress =
          { progress with
            diagram := { progress.diagram with
              activities := before ++ [{ last with note := some (joinStrings "\n" body) }] }
            note := {} }) ∧
    (∀ (progress : SequenceDiagram.Progress) before last,
      progress.diagram.messages = before ++ [last] →
        progress.readLines (noteBlock "note right" body) = .ok
          { progress with
            diagram := { progress.diagram with
              messages := before ++
                [{ last with note := some (joinStrings "\n" ("note right" :: body)) }] }
            note := {} }) ∧
    ∀ source : List String,
      let progress := source.foldl StateDiagram.Progress.readLine {}
      ∀ before state after, progress.diagram.states = before ++ state :: after →
        state.kind = .state →
        let read := (noteBlock ("note right of " ++ state.name) body).foldl
          StateDiagram.Progress.readLine progress
        ((∀ line ∈ body, StateDiagram.notedState? line.toList = none) →
          read =
            { diagram := { progress.diagram with
                states := before ++ { state with note := some (joinStrings "\n" body) } :: after }
              note := {}
              noteTarget := none }) ∧
        ∀ earlier opening later name, body = earlier ++ opening :: later →
          StateDiagram.notedState? opening.toList = some name →
          (∀ line ∈ later, StateDiagram.notedState? line.toList = none) →
          read = progress.withNote (String.ofList name) (joinStrings "\n" later) := by
  refine ⟨?_, ?_, ?_⟩
  · intro progress before last activities
    exact ActivityDiagram.Progress.foldl_noteBlock activities lines
  · intro progress before last messages
    exact SequenceDiagram.Progress.readLines_noteBlock messages lines
  · intro source progress before state after states ordinary read
    have sound : progress.diagram.Sound :=
      List.foldlRecOn (motive := fun progress : StateDiagram.Progress => progress.diagram.Sound)
        source StateDiagram.Progress.readLine .empty fun _ sound line _ => sound.readLine line
    obtain ⟨word, name⟩ := sound.words state (by simp [states]) ordinary
    have key : String.ofList word.characters = state.key := by
      rw [State.key, ordinary]
      exact name
    have target := StateDiagram.Progress.notedState?_opening word
    rw [name] at target
    constructor
    · intro own
      have noted := StateDiagram.Progress.foldl_noteBlock progress target lines own
      rw [key, StateDiagram.Progress.withNote_of_split sound states] at noted
      exact noted
    · rintro earlier opening later other rfl again own
      have whole := StateDiagram.Progress.foldl_noteBlock_reopened progress target
        (fun line member => lines line (List.mem_append_left _ member)) again later
      have noted := StateDiagram.Progress.foldl_noteBlock progress again
        (fun line member => lines line (by simp [member])) own
      exact whole.trans noted

/-- Two lines of which one looks like a statement, beside a step, a message and a state. -/
theorem note_block_of_two_lines :
    let body := ["careful", "stop"]
    let work : Activity := { id := 0, kind := .action, label := "Work" }
    let hello : Message := { id := 0, source := "A", target := "B", text := "hi" }
    let idle : State := { id := 0, name := "Idle", label := "Idle" }
    (noteBlock "note right" body).foldl ActivityDiagram.Progress.readLine
        { diagram := { activities := [work] } } =
      { diagram := { activities := [{ work with note := some "careful\nstop" }] } } ∧
    SequenceDiagram.Progress.readLines { diagram := { messages := [hello] } }
        (noteBlock "note right" body) =
      .ok { diagram := { messages := [{ hello with note := some "note right\ncareful\nstop" }] } } ∧
    (noteBlock "note right of Idle" body).foldl StateDiagram.Progress.readLine
        (["state Idle"].foldl StateDiagram.Progress.readLine {}) =
      { diagram := { states := [{ idle with note := some "careful\nstop" }] } } := by
  intro body work hello idle
  have lines : ∀ line ∈ body, IsNoteLine line := by decide
  obtain ⟨inActivity, inSequence, inState⟩ := note_blocks_read lines
  have declared := (inState ["state Idle"] [] idle [] (by decide) rfl).1 (by decide)
  exact ⟨inActivity _ [] work rfl, inSequence _ [] hello rfl, declared⟩

/-- The note of a message begins with the line that opened it, and a line of a state's note that
names another state takes the note away. -/
theorem note_text_differs :
    (SequenceDiagram.ofLines ["A -> B : hi", "note right", "remember", "end note"]).map
        (fun diagram => diagram.messages.map Message.note) =
      .ok [some "note right\nremember"] ∧
    (StateDiagram.ofLines
        ["state A", "note right of A", "note\tleft of B", "waiting", "end note"]).states.map
        State.note = [none] := by
  decide

end Drafting
