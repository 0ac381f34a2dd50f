import Drafting.Proofs.Position
import Drafting.SequenceDiagram.Reader

/-!
# Registered participants and numbered messages

One line changes what was read in one of eight ways. What each of them keeps is therefore
kept by every run of the reader, and it is proved once that this is so.

The first such invariant is about the lists of the diagram: participants have distinct
names, a message is numbered by its position and both its ends are registered, and a
separator stands at the number of messages that came before it. The main statement is that
this holds of every diagram that is read.
-/

namespace Drafting.SequenceDiagram

namespace Progress

/-- What one line can do to what was read. Opening and collecting a note, and lines that say
nothing, change at most the note. -/
inductive Step (progress : Progress) : Progress → Prop
  | note (note : Note) : Step progress { progress with note }
  | attachNote : Step progress progress.attachNote
  | group (label : String) : Step progress { progress with diagram := { progress.diagram with
      groups := progress.diagram.groups ++ [{ label, startIndex := progress.count }] } }
  | openAlternative (label : String) : Step progress (progress.openAlternative label)
  | otherwise : Step progress progress.otherwise
  | close : Step progress progress.close
  | register (name label : String) (kind : ParticipantKind) :
      Step progress (progress.register name label kind)
  | addMessage (line : MessageLine) : Step progress (progress.addMessage line)

/-- A statement that is carried out makes one of these steps. -/
theorem apply_step {progress next : Progress} {statement : Statement}
    (applied : progress.apply statement = .ok next) : Step progress next := by
  cases statement with
  | group label =>
    rw [← Except.ok.inj applied]
    exact .group label
  | openAlternative label =>
    rw [← Except.ok.inj applied]
    exact .openAlternative label
  | otherwise =>
    rw [← Except.ok.inj applied]
    exact .otherwise
  | close =>
    rw [← Except.ok.inj applied]
    exact .close
  | declaration keyword name label =>
    rw [apply] at applied
    cases chosen : choose "ParticipantKind" ParticipantKind.all ParticipantKind.text keyword with
    | error unknown => simp [chosen, Except.map] at applied
    | ok kind =>
      simp only [chosen, Except.map, Except.ok.injEq] at applied
      rw [← applied]
      exact .register name label kind
  | message line =>
    rw [← Except.ok.inj applied]
    exact .addMessage line

/-- So does every line that is read. -/
theorem readLine_step {progress next : Progress} {line : String}
    (read : progress.readLine line = .ok next) : Step progress next := by
  rw [readLine] at read
  split at read
  · rw [← Except.ok.inj read]
    exact .note _
  · split at read
    · rw [← Except.ok.inj read]
      exact .attachNote
    · split at read
      · rw [← Except.ok.inj read]
        exact .note _
      · split at read
        · exact apply_step read
        · rw [← Except.ok.inj read]
          exact .note _

/-- What every step keeps is kept by a run. -/
theorem readLines_keeps {Invariant : Progress → Prop}
    (step : ∀ progress next, Step progress next → Invariant progress → Invariant next)
    {progress final : Progress} {lines : List String} (start : Invariant progress)
    (read : progress.readLines lines = .ok final) : Invariant final := by
  induction lines generalizing progress with
  | nil =>
    rw [← Except.ok.inj read]
    exact start
  | cons line others inductionHypothesis =>
    rw [readLines] at read
    cases first : progress.readLine line with
    | error unknown => simp [first] at read
    | ok next =>
      rw [first] at read
      exact inductionHypothesis (step progress next (readLine_step first) start) read

/-- What holds before the first line and is kept by every step holds of all that was read. -/
theorem ofLines_keeps {Invariant : Progress → Prop} (start : Invariant {})
    (step : ∀ progress next, Step progress next → Invariant progress → Invariant next)
    {lines : List String} {diagram : SequenceDiagram} (read : ofLines lines = .ok diagram) :
    ∃ final : Progress, final.diagram = diagram ∧ Invariant final := by
  rw [ofLines] at read
  cases run : readLines {} (lines.filter fun line => !isDirective directivesWithHide line) with
  | error unknown => simp [run, Except.map] at read
  | ok final =>
    simp only [run, Except.map, Except.ok.injEq] at read
    exact ⟨final, read, readLines_keeps step start run⟩

/-- A note that is attached changes nothing but the note of a message. -/
theorem map_attachNote {β : Type} (view : Message → β)
    (blind : ∀ message note, view { message with note } = view message) (progress : Progress) :
    progress.attachNote.diagram.messages.map view = progress.diagram.messages.map view := by
  rcases List.eq_nil_or_concat progress.diagram.messages with empty | ⟨before, last, messages⟩
  · simp [attachNote, empty]
  · simp [attachNote, messages, blind]

/-- So there are as many messages as before. -/
theorem count_attachNote (progress : Progress) : progress.attachNote.count = progress.count := by
  have lengths := congrArg List.length (map_attachNote (fun _ => ()) (fun _ _ => rfl) progress)
  simp only [List.length_map] at lengths
  exact congrArg Int.ofNat lengths

end Progress

/-- The names of the participants. -/
def names (diagram : SequenceDiagram) : List String := diagram.participants.map Participant.name

/-- Participants have distinct names, messages are numbered and join participants, and
separators stand at increasing numbers of messages. -/
structure Registered (diagram : SequenceDiagram) : Prop where
  distinct : diagram.names.Nodup
  numbered : NumberedBy Message.id diagram.messages
  ends : ∀ message ∈ diagram.messages,
    message.source ∈ diagram.names ∧ message.target ∈ diagram.names
  ordered : diagram.groups.Pairwise fun first second => first.startIndex ≤ second.startIndex
  bounded : ∀ group ∈ diagram.groups,
    0 ≤ group.startIndex ∧ group.startIndex ≤ diagram.messages.length

namespace Registered

variable {progress : Progress}

/-- An empty diagram. -/
theorem empty : Registered {} where
  distinct := List.nodup_nil
  numbered := .nil
  ends := by simp
  ordered := .nil
  bounded := by simp

/-- Attaching a note leaves numbers and ends alone. -/
theorem attachNote (registered : Registered progress.diagram) :
    Registered progress.attachNote.diagram := by
  have ends := Progress.map_attachNote (fun message => (message.source, message.target))
    (fun _ _ => rfl) progress
  refine ⟨registered.distinct, ?_, ?_, registered.ordered, ?_⟩
  · exact registered.numbered.of_map_eq
      (Progress.map_attachNote Message.id (fun _ _ => rfl) progress)
  · intro message member
    have mapped := List.mem_map_of_mem (f := fun message => (message.source, message.target))
      member
    rw [ends] at mapped
    obtain ⟨old, oldMember, same⟩ := List.mem_map.mp mapped
    obtain ⟨source, target⟩ := Prod.mk.inj same
    exact source ▸ target ▸ registered.ends old oldMember
  · have count := progress.count_attachNote
    intro group member
    rw [Progress.count, Progress.count] at count
    rw [count]
    exact registered.bounded group member

/-- A separator stands behind all messages that were read. -/
theorem group (registered : Registered progress.diagram) (label : String) :
    Registered { progress.diagram with
      groups := progress.diagram.groups ++ [{ label, startIndex := progress.count }] } := by
  refine ⟨registered.distinct, registered.numbered, registered.ends, ?_, ?_⟩
  · refine List.pairwise_append.mpr ⟨registered.ordered, List.pairwise_singleton _ _, ?_⟩
    intro earlier member last isLast
    rw [List.mem_singleton.mp isLast]
    exact (registered.bounded earlier member).2
  · intro group member
    rcases List.mem_append.mp member with earlier | last
    · exact registered.bounded group earlier
    · rw [List.mem_singleton.mp last]
      exact ⟨Int.natCast_nonneg _, Int.le_refl _⟩

/-- The names after one more participant was registered: those before it, and its own. -/
theorem mem_names_register (progress : Progress) (name label : String) (kind : ParticipantKind)
    (asked : String) :
    asked ∈ (progress.register name label kind).diagram.names ↔
      asked ∈ progress.diagram.names ∨ asked = name := by
  rw [Progress.register]
  split
  · next known =>
    obtain ⟨participant, member, same⟩ := List.any_eq_true.mp known
    have inside : name ∈ progress.diagram.names :=
      List.mem_map.mpr ⟨participant, member, eq_of_beq same⟩
    constructor
    · exact .inl
    · rintro (old | rfl)
      · exact old
      · exact inside
  · simp [names]

/-- Registering a participant leaves messages and separators as they are. -/
theorem register_rest (progress : Progress) (name label : String) (kind : ParticipantKind) :
    (progress.register name label kind).diagram.messages = progress.diagram.messages ∧
      (progress.register name label kind).diagram.groups = progress.diagram.groups := by
  rw [Progress.register]
  split <;> exact ⟨rfl, rfl⟩

/-- A participant is registered only if its name is new. -/
theorem register (registered : Registered progress.diagram) (name label : String)
    (kind : ParticipantKind) : Registered (progress.register name label kind).diagram := by
  obtain ⟨messages, groups⟩ := register_rest progress name label kind
  refine ⟨?_, messages ▸ registered.numbered, ?_, groups ▸ registered.ordered, ?_⟩
  · rw [Progress.register]
    split
    · exact registered.distinct
    · next unknown =>
      refine nodup_map_concat registered.distinct ?_
      intro participant inside same
      exact unknown (List.any_eq_true.mpr ⟨participant, inside, beq_iff_eq.mpr same⟩)
  · intro message member
    rw [messages] at member
    obtain ⟨source, target⟩ := registered.ends message member
    exact ⟨(mem_names_register ..).mpr (.inl source), (mem_names_register ..).mpr (.inl target)⟩
  · rw [messages, groups]
    exact registered.bounded

/-- A message is numbered by those before it, and its two ends are registered with it. -/
theorem addMessage (registered : Registered progress.diagram) (line : MessageLine) :
    Registered (progress.addMessage line).diagram := by
  let first := progress.register line.source line.source .participant
  let second := first.register line.target line.target .participant
  have whole : Registered second.diagram := (registered.register _ _ _).register _ _ _
  have source : line.source ∈ second.diagram.names :=
    (mem_names_register first ..).mpr (.inl ((mem_names_register progress ..).mpr (.inr rfl)))
  have target : line.target ∈ second.diagram.names := (mem_names_register first ..).mpr (.inr rfl)
  have messages : second.diagram.messages = progress.diagram.messages :=
    (register_rest first ..).1.trans (register_rest progress ..).1
  refine ⟨whole.distinct, ?_, ?_, whole.ordered, ?_⟩
  · refine whole.numbered.concat ?_
    exact congrArg (fun all : List Message => (all.length : Int)) messages.symm
  · intro message member
    rcases List.mem_append.mp member with earlier | last
    · exact whole.ends message earlier
    · rw [List.mem_singleton.mp last]
      exact ⟨source, target⟩
  · intro group member
    obtain ⟨lower, upper⟩ := whole.bounded group member
    refine ⟨lower, Int.le_trans upper ?_⟩
    exact Int.ofNat_le.mpr (List.length_append ▸ Nat.le_add_right _ _)

/-- Every step keeps participants, messages and separators in order. -/
theorem step {next : Progress} (step : Progress.Step progress next)
    (registered : Registered progress.diagram) : Registered next.diagram := by
  -- alternatives are no part of this, so the steps that change them keep each field
  have sameLists (fragments : List Fragment) :
      Registered { progress.diagram with fragments } :=
    ⟨registered.distinct, registered.numbered, registered.ends, registered.ordered,
      registered.bounded⟩
  cases step with
  | note note => exact registered
  | attachNote => exact registered.attachNote
  | group label => exact registered.group label
  | openAlternative label => exact sameLists _
  | otherwise =>
    rw [Progress.otherwise]
    split
    · exact registered
    · exact sameLists _
  | close =>
    rw [Progress.close]
    split
    · exact registered
    · exact sameLists _
  | register name label kind => exact registered.register name label kind
  | addMessage line => exact registered.addMessage line

/-- Whatever lines are read, participants, messages and separators are in order. -/
theorem of_lines {lines : List String} {diagram : SequenceDiagram}
    (read : ofLines lines = .ok diagram) : Registered diagram := by
  obtain ⟨final, rfl, registered⟩ :=
    Progress.ofLines_keeps empty (fun _ _ => step) read
  exact registered

end Registered

end Drafting.SequenceDiagram
