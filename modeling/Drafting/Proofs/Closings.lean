import Drafting.Proofs.ActivityDiagram.Printing
import Drafting.Proofs.Notes
import Drafting.Proofs.SequenceDiagram.Keywords
import Drafting.UseCaseDiagram.Reader

/-!
# Lines that close nothing

Where no block is open, a line that would close or divide one finds an empty stack and is
passed over. The end of a note looks at no stack: it gives the collected text to its place
whether or not a note is open. Between notes nothing is collected and no state is named, which
is an invariant of all three readers. So the state reader finds no place for the text, and the
other two give an empty text to the last step or the last message.

The main statement says this for every closing line of the four readers.
-/

namespace Drafting

open Text

namespace Note

/-- Nothing is collected while no note is open. -/
def Settled (note : Note) : Prop := note.active = false → note = {}

/-- An open note is settled, whatever it holds. -/
theorem settled_of_active {note : Note} (active : note.active = true) : note.Settled := by
  intro inactive
  rw [active] at inactive
  contradiction

end Note

/-- Changing the last item leaves a list as it is exactly if the last item stays the same. -/
theorem modifyLast_eq_self_iff {α : Type} {change : α → α} {items : List α} :
    items.modifyLast change = items ↔ ∀ last ∈ items.getLast?, change last = last := by
  rcases List.eq_nil_or_concat items with rfl | ⟨before, last, rfl⟩
  · simp [List.modifyLast, List.modifyLast.go]
  · simp [List.modifyLast_concat]

/-- A line that begins with `else` neither opens nor closes a note. -/
theorem else_is_no_note (rest : String) :
    (expect "note " ("else" ++ rest).toList).isSome = false ∧
      ("else" ++ rest == "end note") = false := by
  constructor
  · rw [String.toList_append]
    rfl
  · rw [beq_eq_false_iff_ne]
    intro same
    have characters := congrArg String.toList same
    rw [String.toList_append] at characters
    simp at characters

namespace ActivityDiagram

/-- What a line that begins with `else` says is a further branch. -/
theorem Statement.branch_of_ofLine? {rest : String} {statement : Statement}
    (read : ofLine? ("else" ++ rest) = some statement) :
    (∃ condition branch, statement = .elseIf condition branch) ∨
      ∃ branch, statement = .elseBranch branch := by
  obtain ⟨form, member, found⟩ := List.exists_of_findSome?_eq_some read
  rw [String.toList_append] at found
  simp only [forms, List.mem_cons, List.not_mem_nil, or_false] at member
  rcases member with
    rfl | rfl | rfl | rfl | rfl | rfl | rfl | rfl | rfl | rfl | rfl | rfl | rfl
  case inr.inr.inr.inr.inr.inr.inr.inr.inl =>
    simp only [branch?, Option.bind_eq_bind, Option.bind_eq_some_iff, Prod.exists] at found
    obtain ⟨_, _, _, _, condition, branch, _, whole⟩ := found
    exact .inl ⟨_, _, (Option.some.inj whole).symm⟩
  case inr.inr.inr.inr.inr.inr.inr.inr.inr.inl =>
    simp only [elseBranch?, Option.bind_eq_bind, Option.bind_eq_some_iff] at found
    obtain ⟨_, _, label, _, whole⟩ := found
    exact .inr ⟨_, (Option.some.inj whole).symm⟩
  all_goals exact absurd found.symm (Option.some_ne_none _)

namespace Progress

/-- Without an open decision there is nothing to branch. -/
theorem readLine_else {progress : Progress} (outside : progress.note.active = false)
    (closed : progress.decisions = []) (rest : String) :
    progress.readLine ("else" ++ rest) = progress := by
  obtain ⟨opensNot, closesNot⟩ := else_is_no_note rest
  cases read : Statement.ofLine? ("else" ++ rest) with
  | none =>
    rw [readLine, opensNot, closesNot, outside, read]
    rfl
  | some statement =>
    have carried : progress.readLine ("else" ++ rest) = progress.apply statement := by
      rw [readLine, opensNot, closesNot, outside, read]
      rfl
    rw [carried]
    rcases Statement.branch_of_ofLine? read with ⟨condition, branch, rfl⟩ | ⟨branch, rfl⟩
    · rw [apply, addBranch, closed]
    · rw [apply, addBranch, closed]

/-- Without an open partition there is none to close. -/
theorem readLine_brace {progress : Progress} (outside : progress.note.active = false)
    (closed : progress.openPartitions = []) : progress.readLine "\x7d" = progress := by
  have carried : progress.readLine "\x7d" = progress.closePartition := by
    rw [readLine, outside]
    rfl
  rw [carried, closePartition, closed]

/-- Without an open decision there is none to close. -/
theorem readLine_endif {progress : Progress} (outside : progress.note.active = false)
    (closed : progress.decisions = []) : progress.readLine "endif" = progress := by
  have carried : progress.readLine "endif" = progress.closeDecision := by
    rw [readLine, outside]
    rfl
  rw [carried, closeDecision, closed]

/-- Between notes nothing is collected. -/
theorem settled_readLine {progress : Progress} (settled : progress.note.Settled) (line : String) :
    (progress.readLine line).note.Settled := by
  rw [readLine]
  split
  · exact Note.settled_of_active rfl
  · split
    · intro _
      rfl
    · split
      · next active => exact Note.settled_of_active active
      · split
        · rwa [apply_note]
        · exact settled

/-- The end of a note that was not open gives the last step an empty text. -/
theorem readLine_endNote {progress : Progress} (empty : progress.note = {}) :
    progress.readLine "end note" =
      { progress with diagram := { progress.diagram with
          activities := progress.diagram.activities.modifyLast fun last =>
            { last with note := some "" } } } := by
  have closes : progress.readLine "end note" = progress.attachNote := rfl
  have text : String.ofList (dropMargins true (Note.text {}).toList) = "" := by decide
  rw [closes, attachNote_eq, empty, text]

/-- So it changes nothing only where there is no last step or its note is empty already. -/
theorem readLine_endNote_eq_self_iff {progress : Progress} (empty : progress.note = {}) :
    progress.readLine "end note" = progress ↔
      ∀ last ∈ progress.diagram.activities.getLast?, last.note = some "" := by
  have same (last : Activity) : { last with note := some "" } = last ↔ last.note = some "" := by
    obtain ⟨⟩ := last
    simp [eq_comm]
  rw [readLine_endNote empty]
  simp only [← same, ← modifyLast_eq_self_iff]
  obtain ⟨⟨⟩⟩ := progress
  simp

end Progress

end ActivityDiagram

namespace SequenceDiagram.Progress

/-- The state behind a line that is fed to the reader. A line that is refused leaves the state
as it was. -/
def feed (progress : Progress) (line : String) : Progress :=
  match progress.readLine line with
  | .ok next => next
  | .error _ => progress

/-- Between notes nothing is collected. -/
theorem settled_feed {progress : Progress} (settled : progress.note.Settled) (line : String) :
    (progress.feed line).note.Settled := by
  rw [feed]
  split
  · next next read =>
    rw [readLine] at read
    split at read
    · rw [← Except.ok.inj read]
      exact Note.settled_of_active rfl
    · split at read
      · rw [← Except.ok.inj read]
        intro _
        rfl
      · split at read
        · next active =>
          rw [← Except.ok.inj read]
          exact Note.settled_of_active active
        · split at read
          · rwa [apply_keepsNote read]
          · rwa [← Except.ok.inj read]
  · exact settled

/-- The end of a note that was not open gives the last message an empty text. -/
theorem readLine_endNote {progress : Progress} (empty : progress.note = {}) :
    progress.readLine "end note" = .ok
      { progress with diagram := { progress.diagram with
          messages := progress.diagram.messages.modifyLast fun last =>
            { last with note := some "" } } } := by
  have closes : progress.readLine "end note" = .ok progress.attachNote := rfl
  have text : Note.text {} = "" := by decide
  rw [closes, attachNote_eq, empty, text]

/-- So it changes nothing only where there is no last message or its note is empty already. -/
theorem readLine_endNote_eq_self_iff {progress : Progress} (empty : progress.note = {}) :
    progress.readLine "end note" = .ok progress ↔
      ∀ last ∈ progress.diagram.messages.getLast?, last.note = some "" := by
  have same (last : Message) : { last with note := some "" } = last ↔ last.note = some "" := by
    obtain ⟨⟩ := last
    simp [eq_comm]
  rw [readLine_endNote empty]
  simp only [← same, ← modifyLast_eq_self_iff]
  obtain ⟨⟨⟩⟩ := progress
  simp

/-- Outside of notes the end of a block closes the innermost alternative. -/
theorem readLine_close {progress : Progress} (outside : progress.note.active = false) :
    progress.readLine "end" = .ok progress.close := by
  rw [readLine, outside]
  rfl

/-- Without an open alternative there is none to close. -/
theorem readLine_end {progress : Progress} (outside : progress.note.active = false)
    (closed : progress.alternatives = []) : progress.readLine "end" = .ok progress := by
  rw [readLine_close outside, close, closed]

/-- Without an open alternative there is no opposite case. -/
theorem readLine_else {progress : Progress} (outside : progress.note.active = false)
    (closed : progress.alternatives = []) (rest : String) :
    progress.readLine ("else" ++ rest) = .ok progress := by
  obtain ⟨opensNot, closesNot⟩ := else_is_no_note rest
  have read : Statement.ofLine? ("else" ++ rest) = some .otherwise := by
    rw [Statement.ofLine?, String.toList_append]
    rfl
  have nothing : progress.otherwise = progress := by rw [otherwise, closed]
  rw [readLine, opensNot, closesNot, outside, read]
  exact congrArg Except.ok nothing

end SequenceDiagram.Progress

namespace StateDiagram.Progress

/-- Adding a state leaves notes and the states they are for alone. -/
theorem addState_note (progress : Progress) (name label : String) (kind : StateKind) :
    (progress.addState name label kind).note = progress.note ∧
      (progress.addState name label kind).noteTarget = progress.noteTarget := by
  rw [addState]
  split <;> exact ⟨rfl, rfl⟩

/-- So does adding an end of a transition. -/
theorem addEnd_note (progress : Progress) (name : String) (isSource : Bool) :
    (progress.addEnd name isSource).note = progress.note ∧
      (progress.addEnd name isSource).noteTarget = progress.noteTarget := by
  rw [addEnd]
  split
  · split <;> exact addState_note ..
  · exact addState_note ..

/-- And so do all statements. -/
theorem apply_note (progress : Progress) (statement : Statement) :
    (progress.apply statement).note = progress.note ∧
      (progress.apply statement).noteTarget = progress.noteTarget := by
  cases statement with
  | declaration name label => exact addState_note ..
  | transition source target label =>
    obtain ⟨note, noteTarget⟩ := progress.addEnd_note source true
    obtain ⟨sameNote, sameTarget⟩ := (progress.addEnd source true).addEnd_note target false
    exact ⟨sameNote.trans note, sameTarget.trans noteTarget⟩

/-- Nothing is collected and no state is named while no note is open. -/
def Settled (progress : Progress) : Prop :=
  progress.note.active = false → progress.note = {} ∧ progress.noteTarget = none

/-- Between notes nothing is collected and no state is named. -/
theorem settled_readLine {progress : Progress} (settled : progress.Settled) (line : String) :
    (progress.readLine line).Settled := by
  simp only [Settled, readLine]
  split
  · intro inactive
    contradiction
  · split
    · intro _
      exact ⟨rfl, rfl⟩
    · split
      · next active =>
        intro inactive
        rw [Note.add, active] at inactive
        contradiction
      · split
        · next statement _ =>
          obtain ⟨note, noteTarget⟩ := progress.apply_note statement
          rwa [note, noteTarget]
        · exact settled

/-- The end of a note that was not open finds no state. -/
theorem readLine_endNote {progress : Progress} (empty : progress.note = {})
    (nowhere : progress.noteTarget = none) : progress.readLine "end note" = progress := by
  obtain ⟨diagram, note, noteTarget⟩ := progress
  obtain rfl : note = {} := empty
  obtain rfl : noteTarget = none := nowhere
  have closes (progress : Progress) : progress.readLine "end note" = progress.attachNote := rfl
  rw [closes, attachNote]
  simp [Note.closed]

end StateDiagram.Progress

/-- A closing brace takes the innermost rectangle away, if one is open. -/
theorem UseCaseDiagram.Progress.readLine_close (progress : Progress) :
    progress.readLine "\x7d" =
      { progress with openRectangles := progress.openRectangles.tail } := by
  have popped : progress.readLine "\x7d" =
      if "\x7d" == "\x7d" && !progress.openRectangles.isEmpty then
        { progress with openRectangles := progress.openRectangles.tail }
      else progress := rfl
  obtain ⟨diagram, opened⟩ := progress
  rw [popped]
  cases opened <;> rfl

/-- Without an open rectangle there is none to close. -/
theorem UseCaseDiagram.Progress.readLine_brace {progress : Progress}
    (closed : progress.openRectangles = []) : progress.readLine "\x7d" = progress := by
  obtain ⟨diagram, opened⟩ := progress
  obtain rfl : opened = [] := closed
  rw [readLine_close, List.tail_nil]

/-- Between notes, closing lines of blocks of which none is open change nothing, in any state of
the four readers, and so does the end of a note in the reader of states. In the readers of
activities and sequences the end of a note gives the last step or message an empty text, so it
changes nothing only if there is none or its note is empty already. -/
theorem unmatched_closings (activity : ActivityDiagram.Progress)
    (sequence : SequenceDiagram.Progress) (useCase : UseCaseDiagram.Progress)
    (lines : List String) (rest : String) :
    let behindStates := lines.foldl StateDiagram.Progress.readLine {}
    let behindSteps := lines.foldl ActivityDiagram.Progress.readLine {}
    let behindMessages := lines.foldl SequenceDiagram.Progress.feed {}
    (activity.note.active = false →
      (activity.openPartitions = [] → activity.readLine "\x7d" = activity) ∧
      (activity.decisions = [] → activity.readLine "endif" = activity ∧
        activity.readLine ("else" ++ rest) = activity)) ∧
    (sequence.note.active = false → sequence.alternatives = [] →
      sequence.readLine "end" = .ok sequence ∧
        sequence.readLine ("else" ++ rest) = .ok sequence) ∧
    (useCase.openRectangles = [] → useCase.readLine "\x7d" = useCase) ∧
    (behindStates.note.active = false → behindStates.readLine "end note" = behindStates) ∧
    (behindSteps.note.active = false →
      behindSteps.readLine "end note" =
        { behindSteps with diagram := { behindSteps.diagram with
            activities := behindSteps.diagram.activities.modifyLast fun last =>
              { last with note := some "" } } } ∧
      (behindSteps.readLine "end note" = behindSteps ↔
        ∀ last ∈ behindSteps.diagram.activities.getLast?, last.note = some "")) ∧
    (behindMessages.note.active = false →
      behindMessages.readLine "end note" = .ok
        { behindMessages with diagram := { behindMessages.diagram with
            messages := behindMessages.diagram.messages.modifyLast fun last =>
              { last with note := some "" } } } ∧
      (behindMessages.readLine "end note" = .ok behindMessages ↔
        ∀ last ∈ behindMessages.diagram.messages.getLast?, last.note = some "")) := by
  intro behindStates behindSteps behindMessages
  refine ⟨?_, ?_, ?_, ?_, ?_, ?_⟩
  · intro outside
    constructor
    · exact activity.readLine_brace outside
    · intro closed
      exact ⟨activity.readLine_endif outside closed, activity.readLine_else outside closed rest⟩
  · intro outside closed
    exact ⟨sequence.readLine_end outside closed, sequence.readLine_else outside closed rest⟩
  · intro closed
    exact useCase.readLine_brace closed
  · intro outside
    have settled : behindStates.Settled :=
      List.foldlRecOn (motive := StateDiagram.Progress.Settled)
        lines StateDiagram.Progress.readLine (fun _ => ⟨rfl, rfl⟩)
        fun _ settled line _ => StateDiagram.Progress.settled_readLine settled line
    obtain ⟨empty, nowhere⟩ := settled outside
    exact StateDiagram.Progress.readLine_endNote empty nowhere
  · intro outside
    have settled : behindSteps.note.Settled :=
      List.foldlRecOn (motive := fun progress : ActivityDiagram.Progress => progress.note.Settled)
        lines ActivityDiagram.Progress.readLine (fun _ => rfl)
        fun _ settled line _ => ActivityDiagram.Progress.settled_readLine settled line
    exact ⟨behindSteps.readLine_endNote (settled outside),
      behindSteps.readLine_endNote_eq_self_iff (settled outside)⟩
  · intro outside
    have settled : behindMessages.note.Settled :=
      List.foldlRecOn (motive := fun progress : SequenceDiagram.Progress => progress.note.Settled)
        lines SequenceDiagram.Progress.feed (fun _ => rfl)
        fun _ settled line _ => SequenceDiagram.Progress.settled_feed settled line
    exact ⟨behindMessages.readLine_endNote (settled outside),
      behindMessages.readLine_endNote_eq_self_iff (settled outside)⟩

/-- Behind a step, a message and a use case, nothing changes but the note of the last step, which
had none. -/
theorem unmatched_closings_behind_lines :
    let lines := [":Work;", "A -> B : hi", "state Idle"]
    let activity := lines.foldl ActivityDiagram.Progress.readLine {}
    let sequence := lines.foldl SequenceDiagram.Progress.feed {}
    let useCase := ["usecase Pay"].foldl UseCaseDiagram.Progress.readLine {}
    let state := lines.foldl StateDiagram.Progress.readLine {}
    activity.readLine "\x7d" = activity ∧ activity.readLine "endif" = activity ∧
      activity.readLine ("else" ++ " (no)") = activity ∧ sequence.readLine "end" = .ok sequence ∧
      sequence.readLine ("else" ++ " (no)") = .ok sequence ∧
      useCase.readLine "\x7d" = useCase ∧ state.readLine "end note" = state ∧
      activity.readLine "end note" ≠ activity ∧
      sequence.readLine "end note" ≠ .ok sequence := by
  intro lines activity sequence useCase state
  obtain ⟨steps, messages, rectangles, states, stepNotes, messageNotes⟩ :=
    unmatched_closings activity sequence useCase lines " (no)"
  have outsideSteps : activity.note.active = false := by decide +kernel
  have outsideMessages : sequence.note.active = false := by decide +kernel
  have noPartition : activity.openPartitions = [] := by decide +kernel
  have noDecision : activity.decisions = [] := by decide +kernel
  have noAlternative : sequence.alternatives = [] := by decide +kernel
  have noRectangle : useCase.openRectangles = [] := by decide +kernel
  have outsideStates : state.note.active = false := by decide +kernel
  obtain ⟨brace, decisions⟩ := steps outsideSteps
  obtain ⟨endif, divided⟩ := decisions noDecision
  obtain ⟨ended, dividedMessages⟩ := messages outsideMessages noAlternative
  have noStepNote : ¬∀ last ∈ activity.diagram.activities.getLast?, last.note = some "" := by
    decide +kernel
  have noMessageNote : ¬∀ last ∈ sequence.diagram.messages.getLast?, last.note = some "" := by
    decide +kernel
  exact ⟨brace noPartition, endif, divided, ended, dividedMessages, rectangles noRectangle,
    states outsideStates, fun same => noStepNote ((stepNotes outsideSteps).2.mp same),
    fun same => noMessageNote ((messageNotes outsideMessages).2.mp same)⟩

/-- A second end of a note takes the note of the last step away. -/
theorem note_closed_twice :
    let lines := [":Work;", "note right", "careful", "end note"]
    (ActivityDiagram.ofLines lines).activities.map Activity.note = [some "careful"] ∧
      (ActivityDiagram.ofLines (lines ++ ["end note"])).activities.map Activity.note =
        [some ""] := by
  decide

end Drafting
