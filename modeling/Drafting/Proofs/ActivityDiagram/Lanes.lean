import Drafting.Proofs.ActivityDiagram.Partitions
import Drafting.Proofs.ActivityDiagram.Printing
import Drafting.Proofs.SequenceDiagram.Keywords

/-!
# Lanes and partitions of steps

Each step is put into the lane that was entered last. A lane is entered by its name, and
entering it again leads to the same lane. Lines within a note enter
none; notes are opened and closed by the same lines as in sequence diagrams.

The main statement is what any lines, with blocks opened and closed in any order, leave behind:
lanes and partitions are numbered, the ranges of partitions tell which steps belong to them, and
the lane of a step is the one named last before the line that added it.
-/

namespace Drafting.ActivityDiagram

/-- The name of the lane that a statement enters, if it enters one. -/
def Statement.laneName? : Statement → Option String
  | .lane _ label => some label
  | _ => none

/-- The name of the lane that a line enters, if it enters one. -/
def laneName? (line : String) : Option String := (Statement.ofLine? line).bind Statement.laneName?

/-- The name in the last of some lines that enters a lane. A line within a note enters none, and
`noted` tells whether a note is open before the lines. -/
def lastLane? (noted : Bool) (lines : List String) : Option String :=
  ((SequenceDiagram.outsideNotes noted lines).filterMap laneName?).getLast?

/-- A lane is the one with the given name, and it is none where no name is given. -/
def IsLane (lanes : List Swimlane) (name : Option String) (lane : Option Int) : Prop :=
  match name with
  | none => lane = none
  | some label => ∃ own ∈ lanes, own.label = label ∧ lane = some own.id

/-- A lane that is known by its name remains so when lanes are added. -/
theorem IsLane.mono {lanes later : List Swimlane} (subset : lanes ⊆ later) {name : Option String}
    {lane : Option Int} (named : IsLane lanes name lane) : IsLane later name lane := by
  cases name with
  | none => exact named
  | some label =>
    obtain ⟨own, member, same⟩ := named
    exact ⟨own, subset member, same⟩

namespace Progress

/-- The lane that is entered has the name that was given. -/
theorem enterLane_isLane (progress : Progress) (color : Option String) (label : String) :
    IsLane (progress.enterLane color label).diagram.swimlanes (some label)
      (progress.enterLane color label).swimlane := by
  rw [enterLane]
  split
  · next known found =>
    have named := List.find?_some found
    exact ⟨known, List.mem_of_find?_eq_some found, beq_iff_eq.mp named, rfl⟩
  · exact ⟨_, List.mem_append_right _ List.mem_cons_self, rfl, rfl⟩

/-- After each statement the current lane is the one that was named last: only a statement that
names a lane changes lanes or enters one. -/
theorem apply_isLane {progress : Progress} {name : Option String}
    (named : IsLane progress.diagram.swimlanes name progress.swimlane) (statement : Statement) :
    IsLane (progress.apply statement).diagram.swimlanes (statement.laneName?.or name)
      (progress.apply statement).swimlane := by
  cases statement with
  | lane color label => exact enterLane_isLane progress color label
  | closePartition =>
    simp only [apply, closePartition]
    split <;> exact named
  | elseIf condition branch =>
    simp only [apply, addBranch]
    split <;> exact named
  | elseBranch branch =>
    simp only [apply, addBranch]
    split <;> exact named
  | endIf =>
    simp only [apply, closeDecision]
    split <;> exact named
  | _ => exact named

/-- So it is after each line. Opening and closing a note, and the lines within it, enter no
lane. -/
theorem readLine_isLane {progress : Progress} {name : Option String}
    (named : IsLane progress.diagram.swimlanes name progress.swimlane) (line : String) :
    ∃ own, IsLane (progress.readLine line).diagram.swimlanes (own.or name)
        (progress.readLine line).swimlane ∧
      ∀ others, lastLane? progress.note.active (line :: others) =
        (lastLane? (progress.readLine line).note.active others).or own := by
  simp only [readLine, lastLane?, SequenceDiagram.outsideNotes]
  split
  · exact ⟨none, named, by simp [Note.start]⟩
  · split
    · exact ⟨none, named, by simp [attachNote, Note.closed]⟩
    · split
      · next active => exact ⟨none, named, by simp [Note.add, active]⟩
      · next inactive =>
        have closed : progress.note.active = false := by simpa using inactive
        cases read : Statement.ofLine? line with
        | none => exact ⟨none, named, by simp [laneName?, read, closed]⟩
        | some statement =>
          refine ⟨statement.laneName?, apply_isLane named statement, ?_⟩
          intro others
          rw [apply_note, closed, List.filterMap_cons, laneName?, read, Option.bind_some]
          cases statement.laneName? with
          | none => simp
          | some label => simp [List.getLast?_cons]

/-- After any lines the current lane is the one named last. -/
theorem foldl_isLane {progress : Progress} {name : Option String}
    (named : IsLane progress.diagram.swimlanes name progress.swimlane) (lines : List String) :
    IsLane (lines.foldl readLine progress).diagram.swimlanes
      ((lastLane? progress.note.active lines).or name)
      (lines.foldl readLine progress).swimlane := by
  induction lines generalizing progress name with
  | nil => exact named
  | cons line others inductionHypothesis =>
    obtain ⟨own, next, later⟩ := readLine_isLane named line
    rw [later, Option.or_assoc]
    exact inductionHypothesis next

/-- The current lane is the one named last by the lines so far. -/
theorem afterLines_isLane (lines : List String) :
    IsLane (afterLines lines).diagram.swimlanes (lastLane? false lines)
      (afterLines lines).swimlane := by
  have start : IsLane ({} : Progress).diagram.swimlanes none ({} : Progress).swimlane := rfl
  have run := foldl_isLane start lines
  rw [Option.or_none] at run
  exact run

/-- A lane that is known remains known. -/
theorem Step.lanes_subset {progress next : Progress} (step : Step progress next) :
    progress.diagram.swimlanes ⊆ next.diagram.swimlanes := by
  cases step with
  | still same places =>
    have lanes : next.diagram.swimlanes = progress.diagram.swimlanes := congrArg Prod.fst same
    rw [lanes]
    exact List.Subset.refl _
  | add same places =>
    have lanes : next.diagram.swimlanes = progress.diagram.swimlanes := congrArg Prod.fst same
    rw [lanes]
    exact List.Subset.refl _
  | enterLane color label =>
    rw [Progress.enterLane]
    split
    · exact List.Subset.refl _
    · exact List.subset_append_left _ _
  | openPartition label => exact List.Subset.refl _
  | closePartition =>
    rw [Progress.closePartition]
    split <;> exact List.Subset.refl _

/-- So it is over any lines. -/
theorem afterLines_lanes_subset (before after : List String) :
    (afterLines before).diagram.swimlanes ⊆ (afterLines (before ++ after)).diagram.swimlanes := by
  induction after using List.reverseRecOn with
  | nil => rw [List.append_nil]; exact List.Subset.refl _
  | append_singleton lines line inductionHypothesis =>
    rw [← List.append_assoc, afterLines_concat]
    exact List.Subset.trans inductionHypothesis (readLine_step _ line).lanes_subset

/-- At most one step is added, and no other changes its place. -/
theorem Step.places_eq {progress next : Progress} (step : Step progress next) :
    next.places = progress.places ∨
      next.places = progress.places ++ [(progress.swimlane, progress.openPartitions.head?)] := by
  cases step with
  | still same places => exact .inl places
  | add same places => exact .inr places
  | enterLane color label =>
    left
    rw [Progress.enterLane]
    split <;> rfl
  | openPartition label => exact .inl rfl
  | closePartition =>
    left
    rw [Progress.closePartition]
    split <;> rfl

/-- Every step was added by one of the lines, in the lane that was current before it. -/
theorem exists_adding_line (lines : List String) {position : Nat}
    {place : Option Int × Option Int} (found : (afterLines lines).places[position]? = some place) :
    ∃ before line after, lines = before ++ line :: after ∧
      (afterLines before).count = position ∧
      (afterLines (before ++ [line])).count = position + 1 ∧
      place.1 = (afterLines before).swimlane := by
  induction lines using List.reverseRecOn with
  | nil => simp [afterLines, places] at found
  | append_singleton lines last inductionHypothesis =>
    have earlier (known : (afterLines lines).places[position]? = some place) :
        ∃ before line after, lines ++ [last] = before ++ line :: after ∧
          (afterLines before).count = position ∧
          (afterLines (before ++ [line])).count = position + 1 ∧
          place.1 = (afterLines before).swimlane := by
      obtain ⟨before, line, after, split, rest⟩ := inductionHypothesis known
      exact ⟨before, line, after ++ [last], by simp [split], rest⟩
    rw [afterLines_concat] at found
    rcases (readLine_step (afterLines lines) last).places_eq with same | added
    · exact earlier (same ▸ found)
    · rw [added] at found
      rcases getElem?_concat_eq_some_iff.mp found with known | ⟨isLast, isAdded⟩
      · exact earlier known
      · refine ⟨lines, last, [], rfl, ?_, ?_, ?_⟩
        · rw [← length_places, isLast]
        · rw [← length_places, afterLines_concat, added, isLast, List.length_append]
          rfl
        · rw [← isAdded]

end Progress

/-- After any lines, whatever they open and close, lanes and partitions are numbered by their
positions and lanes have distinct names; the open partitions are those without an end, innermost
first; and a closed one ends behind its beginning and not behind the last step. The partition
of a step is the last of those around it, and its lane is the one named last before the line
that added it. -/
theorem groups_of_lines (lines : List String) :
    let final := Progress.afterLines lines
    NumberedBy Swimlane.id final.diagram.swimlanes ∧
      NumberedBy Partition.id final.diagram.partitions ∧
      (final.diagram.swimlanes.map Swimlane.label).Nodup ∧
      final.openPartitions = Partition.opened final.diagram.partitions ∧
      (∀ group ∈ final.diagram.partitions, ∀ behind, group.endIndex = some behind →
        group.startIndex ≤ behind ∧ behind ≤ final.count) ∧
      ∀ (position : Nat) activity, final.diagram.activities[position]? = some activity →
        activity.partition = Partition.around? final.diagram.partitions position ∧
        ∃ before line after, lines = before ++ line :: after ∧
          (Progress.afterLines before).count = position ∧
          (Progress.afterLines (before ++ [line])).count = position + 1 ∧
          IsLane final.diagram.swimlanes (lastLane? false before) activity.swimlane := by
  intro final
  have grouped := Progress.afterLines_grouped lines
  refine ⟨grouped.lanesNumbered, grouped.partitionsNumbered, grouped.lanesDistinct,
    grouped.stack, ?_, ?_⟩
  · intro group member behind ends
    rw [← Progress.length_places]
    exact grouped.ended group member behind ends
  · intro position activity found
    have placed : final.places[position]? = some activity.place := by
      rw [Progress.places, List.getElem?_map, found, Option.map_some]
    refine ⟨grouped.members position activity.place placed, ?_⟩
    obtain ⟨before, line, after, split, start, next, lane⟩ :=
      Progress.exists_adding_line lines placed
    refine ⟨before, line, after, split, start, next, ?_⟩
    have known : (Progress.afterLines before).diagram.swimlanes ⊆ final.diagram.swimlanes := by
      rw [show final = Progress.afterLines (before ++ line :: after) by rw [← split]]
      exact Progress.afterLines_lanes_subset before (line :: after)
    rw [show activity.swimlane = _ from lane]
    exact (Progress.afterLines_isLane before).mono known

end Drafting.ActivityDiagram
