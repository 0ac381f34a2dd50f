import Drafting.Proofs.ActivityDiagram.Nesting
import Drafting.Proofs.Position
import Mathlib.Data.List.Induction

/-!
# Partitions

A partition only records the number of steps at its beginning and at its end, and each step is
put into the innermost partition that is open. What one line does to lanes, partitions and the
places of steps falls into five cases: it enters a lane, opens or closes a partition, adds one
step, or leaves all of this as it is. An invariant that each of the five keeps therefore holds
after any lines.

The invariant says that the recorded ranges tell the partition of each step: it is the last of
those around the step. A partition that is opened later begins behind the step, and one that is
closed later ends behind it, so neither changes what is around it.
-/

namespace Drafting

/-- The lane and the partition of a step. -/
def Activity.place (activity : Activity) : Option Int × Option Int :=
  (activity.swimlane, activity.partition)

namespace Partition

/-- Whether the step of a given number stands in a partition: not before its beginning and,
where it has an end, before that. -/
def covers (group : Partition) (number : Int) : Bool :=
  decide (group.startIndex ≤ number) && group.endIndex.all fun behind => decide (number < behind)

/-- The last of the partitions in which a step stands. -/
def around? (groups : List Partition) (number : Int) : Option Int :=
  ((groups.filter fun group => group.covers number).map Partition.id).max?

/-- The partitions that are open, innermost first. -/
def opened (groups : List Partition) : List Int :=
  ((groups.filter fun group => group.endIndex.isNone).map Partition.id).reverse

/-- A partition with its end, if it is the one that is closed. -/
def closed (group : Partition) (innermost count : Int) : Partition :=
  if group.id = innermost then { group with endIndex := some count } else group

@[simp]
theorem closed_id (group : Partition) (innermost count : Int) :
    (group.closed innermost count).id = group.id := by
  rw [closed]
  split <;> rfl

@[simp]
theorem closed_startIndex (group : Partition) (innermost count : Int) :
    (group.closed innermost count).startIndex = group.startIndex := by
  rw [closed]
  split <;> rfl

@[simp]
theorem closed_isNone (group : Partition) (innermost count : Int) :
    (group.closed innermost count).endIndex.isNone =
      (group.endIndex.isNone && group.id != innermost) := by
  rw [closed]
  split
  · next same => simp [same]
  · next other => simp [other]

/-- What is covered lies behind the beginning and before the end. -/
theorem covers_iff {group : Partition} {number : Int} :
    group.covers number = true ↔
      group.startIndex ≤ number ∧ ∀ behind, group.endIndex = some behind → number < behind := by
  rw [covers, Bool.and_eq_true, decide_eq_true_eq]
  cases group.endIndex <;> simp

/-- Increasing numbers end with the largest. -/
theorem max?_of_increasing {numbers : List Int} (increasing : numbers.Pairwise (· < ·)) :
    numbers.max? = numbers.getLast? := by
  rcases List.eq_nil_or_concat numbers with rfl | ⟨before, last, rfl⟩
  · rfl
  · rw [List.concat_eq_append] at increasing ⊢
    rw [List.getLast?_concat, List.max?_eq_some_iff]
    constructor
    · simp
    · intro number member
      rcases List.mem_append.mp member with earlier | isLast
      · exact Int.le_of_lt ((List.pairwise_append.mp increasing).2.2 number earlier last (by simp))
      · exact Int.le_of_eq (List.mem_singleton.mp isLast)

/-- The numbers of those partitions that are chosen increase. -/
theorem increasing_filter {groups : List Partition} (numbered : NumberedBy Partition.id groups)
    (chosen : Partition → Bool) : ((groups.filter chosen).map Partition.id).Pairwise (· < ·) :=
  List.pairwise_map.mpr (numbered.increasing.filter _)

/-- The innermost open partition is the last that is open. -/
theorem head?_opened {groups : List Partition} (numbered : NumberedBy Partition.id groups) :
    (opened groups).head? =
      ((groups.filter fun group => group.endIndex.isNone).map Partition.id).max? := by
  rw [opened, List.head?_reverse, max?_of_increasing (increasing_filter numbered _)]

end Partition

namespace ActivityDiagram

/-- Lanes and partitions are numbered by their positions and lanes have distinct names. The
open partitions are those without an end, the recorded ranges lie among the steps, and each
step has the last of the partitions around it. -/
structure Grouped (lanes : List Swimlane) (partitions : List Partition) (opened : List Int)
    (places : List (Option Int × Option Int)) : Prop where
  lanesNumbered : NumberedBy Swimlane.id lanes
  lanesDistinct : (lanes.map Swimlane.label).Nodup
  partitionsNumbered : NumberedBy Partition.id partitions
  stack : opened = Partition.opened partitions
  begun : ∀ group ∈ partitions, group.startIndex ≤ places.length
  ended : ∀ group ∈ partitions, ∀ behind, group.endIndex = some behind →
    group.startIndex ≤ behind ∧ behind ≤ places.length
  members : ∀ (position : Nat) place, places[position]? = some place →
    place.2 = Partition.around? partitions position

namespace Grouped

variable {lanes : List Swimlane} {partitions : List Partition} {opened : List Int}
  {places : List (Option Int × Option Int)}

/-- Nothing was read yet. -/
theorem empty : Grouped [] [] [] [] :=
  ⟨.nil, List.nodup_nil, .nil, rfl, by simp, by simp, by simp⟩

/-- Where the next step will stand, exactly the open partitions are around it. -/
theorem around?_next (grouped : Grouped lanes partitions opened places) :
    Partition.around? partitions places.length = opened.head? := by
  have around : ∀ group ∈ partitions,
      group.covers places.length = group.endIndex.isNone := by
    intro group member
    rw [Bool.eq_iff_iff, Partition.covers_iff]
    constructor
    · rintro ⟨_, within⟩
      cases ends : group.endIndex with
      | none => rfl
      | some behind =>
        have before := within behind ends
        have after := (grouped.ended group member behind ends).2
        omega
    · intro isOpen
      have endless := Option.isNone_iff_eq_none.mp isOpen
      exact ⟨grouped.begun group member, by simp [endless]⟩
  rw [Partition.around?, List.filter_congr around, grouped.stack,
    Partition.head?_opened grouped.partitionsNumbered]

/-- A step is added to the innermost open partition. -/
theorem add (grouped : Grouped lanes partitions opened places) (lane : Option Int) :
    Grouped lanes partitions opened (places ++ [(lane, opened.head?)]) := by
  refine ⟨grouped.lanesNumbered, grouped.lanesDistinct, grouped.partitionsNumbered,
    grouped.stack, ?_, ?_, ?_⟩
  · intro group member
    have begun := grouped.begun group member
    rw [List.length_append, List.length_singleton]
    omega
  · intro group member behind ends
    obtain ⟨ordered, bounded⟩ := grouped.ended group member behind ends
    rw [List.length_append, List.length_singleton]
    omega
  · intro position place found
    rcases getElem?_concat_eq_some_iff.mp found with earlier | ⟨rfl, rfl⟩
    · exact grouped.members position place earlier
    · exact grouped.around?_next.symm

/-- A lane with a new name may be added. -/
theorem addLane (grouped : Grouped lanes partitions opened places) {lane : Swimlane}
    (next : lane.id = lanes.length) (fresh : ∀ known ∈ lanes, known.label ≠ lane.label) :
    Grouped (lanes ++ [lane]) partitions opened places :=
  ⟨grouped.lanesNumbered.concat next, nodup_map_concat grouped.lanesDistinct fresh,
    grouped.partitionsNumbered, grouped.stack, grouped.begun, grouped.ended, grouped.members⟩

/-- A partition that begins behind all steps may be added. It is around none of them. -/
theorem openPartition (grouped : Grouped lanes partitions opened places) {group : Partition}
    (next : group.id = partitions.length) (begins : group.startIndex = places.length)
    (endless : group.endIndex = none) :
    Grouped lanes (partitions ++ [group]) (group.id :: opened) places := by
  refine ⟨grouped.lanesNumbered, grouped.lanesDistinct, grouped.partitionsNumbered.concat next,
    ?_, ?_, ?_, ?_⟩
  · rw [Partition.opened, List.filter_append, List.map_append, List.reverse_append,
      grouped.stack, Partition.opened]
    simp [endless]
  · intro known member
    rcases List.mem_append.mp member with earlier | added
    · exact grouped.begun known earlier
    · obtain rfl := List.mem_singleton.mp added
      omega
  · intro known member behind ends
    rcases List.mem_append.mp member with earlier | added
    · exact grouped.ended known earlier behind ends
    · obtain rfl := List.mem_singleton.mp added
      simp [endless] at ends
  · intro position place found
    obtain ⟨inside, _⟩ := List.getElem?_eq_some_iff.mp found
    have outside : group.covers position = false := by
      rw [Bool.eq_false_iff]
      intro covered
      have reached := (Partition.covers_iff.mp covered).1
      omega
    rw [grouped.members position place found, Partition.around?, Partition.around?,
      List.filter_append, List.filter_cons_of_neg (by simp [outside]), List.filter_nil,
      List.append_nil]

/-- What is open is a partition without an end. -/
theorem endless_of_open (grouped : Grouped lanes partitions opened places) {group : Partition}
    (member : group ∈ partitions) (isOpen : group.id ∈ opened) : group.endIndex = none := by
  rw [grouped.stack, Partition.opened, List.mem_reverse, List.mem_map] at isOpen
  obtain ⟨own, inside, same⟩ := isOpen
  obtain ⟨ownMember, endless⟩ := List.mem_filter.mp inside
  rw [← grouped.partitionsNumbered.eq_of_number ownMember member same]
  exact Option.isNone_iff_eq_none.mp endless

/-- No partition is open twice. -/
theorem opened_nodup (grouped : Grouped lanes partitions opened places) : opened.Nodup := by
  rw [grouped.stack, Partition.opened, List.nodup_reverse]
  exact (Partition.increasing_filter grouped.partitionsNumbered _).imp Int.ne_of_lt

/-- Ending the innermost open partition leaves the outer ones open. -/
theorem opened_closed {innermost : Int} {outer : List Int}
    (grouped : Grouped lanes partitions (innermost :: outer) places) (count : Int) :
    Partition.opened (partitions.map (Partition.closed · innermost count)) = outer := by
  have apart : innermost ∉ outer := (List.nodup_cons.mp grouped.opened_nodup).1
  calc Partition.opened (partitions.map (Partition.closed · innermost count))
      = (Partition.opened partitions).filter (· != innermost) := by
        simp [Partition.opened, List.filter_map, Function.comp_def, List.filter_filter,
          List.filter_reverse, Bool.and_comm]
    _ = (innermost :: outer).filter (· != innermost) := by rw [grouped.stack]
    _ = outer := by
        rw [List.filter_cons_of_neg (by simp), List.filter_eq_self]
        exact bne_of_not_mem apart

/-- The innermost open partition may end behind all steps. It stays around those that it was
around. -/
theorem close {innermost : Int} {outer : List Int}
    (grouped : Grouped lanes partitions (innermost :: outer) places) :
    Grouped lanes (partitions.map (Partition.closed · innermost places.length)) outer places := by
  have endless : ∀ group ∈ partitions, group.id = innermost → group.endIndex = none :=
    fun group member same => grouped.endless_of_open member (by simp [same])
  refine ⟨grouped.lanesNumbered, grouped.lanesDistinct,
    grouped.partitionsNumbered.of_map_eq (by simp), (grouped.opened_closed _).symm, ?_, ?_, ?_⟩
  · intro group member
    obtain ⟨own, inside, rfl⟩ := List.mem_map.mp member
    rw [Partition.closed_startIndex]
    exact grouped.begun own inside
  · intro group member behind ends
    obtain ⟨own, inside, rfl⟩ := List.mem_map.mp member
    rw [Partition.closed_startIndex]
    by_cases isInnermost : own.id = innermost
    · have last : (places.length : Int) = behind := by
        simpa [Partition.closed, isInnermost] using ends
      exact ⟨last ▸ grouped.begun own inside, Int.le_of_eq last.symm⟩
    · exact grouped.ended own inside behind (by simpa [Partition.closed, isInnermost] using ends)
  · intro position place found
    have same : ∀ group ∈ partitions,
        (group.closed innermost places.length).covers position = group.covers position := by
      intro group member
      by_cases isInnermost : group.id = innermost
      · obtain ⟨inside, _⟩ := List.getElem?_eq_some_iff.mp found
        have isOpen := endless group member isInnermost
        simp [Partition.closed, isInnermost, Partition.covers, isOpen, inside]
      · simp [Partition.closed, isInnermost]
    have kept : (partitions.map (Partition.closed · innermost places.length)).filter
          (fun group => group.covers position) =
        (partitions.filter fun group => group.covers position).map
          (Partition.closed · innermost places.length) := by
      rw [List.filter_map]
      exact congrArg _ (List.filter_congr same)
    rw [grouped.members position place found, Partition.around?, Partition.around?, kept,
      List.map_map]
    simp [Function.comp_def]

end Grouped

namespace Progress

/-- The lanes and partitions of the steps. -/
def places (progress : Progress) : List (Option Int × Option Int) :=
  progress.diagram.activities.map Activity.place

/-- What is known of lanes and partitions. -/
def groups (progress : Progress) :
    List Swimlane × List Partition × List Int × Option Int :=
  (progress.diagram.swimlanes, progress.diagram.partitions, progress.openPartitions,
    progress.swimlane)

/-- What one line can do to lanes, partitions and the places of steps. -/
inductive Step (progress : Progress) : Progress → Prop
  | still {next : Progress} (same : next.groups = progress.groups)
      (places : next.places = progress.places) : Step progress next
  | add {next : Progress} (same : next.groups = progress.groups)
      (places : next.places =
        progress.places ++ [(progress.swimlane, progress.openPartitions.head?)]) :
      Step progress next
  | enterLane (color : Option String) (label : String) :
      Step progress (progress.enterLane color label)
  | openPartition (label : String) : Step progress (progress.openPartition label)
  | closePartition : Step progress progress.closePartition

/-- A step of any kind is added in the current lane and the innermost open partition. -/
theorem add_step (progress : Progress) (step : Activity) (decisions : List OpenDecision) :
    Step progress { progress.add step with decisions } :=
  .add rfl (by simp [places, Progress.add, Activity.place])

/-- A further branch adds one step or, where no decision is open, none. -/
theorem addBranch_step (progress : Progress) (kind : ActivityKind) (condition : Option String)
    (branch : String) : Step progress (progress.addBranch kind condition branch) := by
  rw [addBranch]
  split
  · exact .still rfl rfl
  · exact add_step progress _ _

/-- Every statement does one of these. -/
theorem apply_step (progress : Progress) (statement : Statement) :
    Step progress (progress.apply statement) := by
  cases statement with
  | lane color label => exact .enterLane color label
  | openPartition label => exact .openPartition label
  | closePartition => exact .closePartition
  | elseIf condition branch => exact addBranch_step progress _ _ branch
  | elseBranch branch => exact addBranch_step progress _ _ branch
  | endIf =>
    rw [apply, closeDecision]
    split
    · exact .still rfl rfl
    · exact add_step progress _ _
  | start => exact add_step progress _ progress.decisions
  | stop => exact add_step progress _ progress.decisions
  | fork => exact add_step progress _ progress.decisions
  | action label => exact add_step progress _ progress.decisions
  | ifThen condition branch => exact add_step progress _ _
  | whileLoop condition branch => exact add_step progress _ progress.decisions
  | endWhile => exact add_step progress _ progress.decisions

/-- A note that is attached leaves all steps in their places. -/
theorem places_attachNote (progress : Progress) :
    progress.attachNote.places = progress.places := by
  have blind : Activity.place ∘ Activity.outline = Activity.place := rfl
  have outlines := congrArg (List.map Activity.place) progress.attachNote_outlines
  rw [List.map_map, List.map_map, blind] at outlines
  exact outlines

/-- So does every line. -/
theorem readLine_step (progress : Progress) (line : String) :
    Step progress (progress.readLine line) := by
  rw [readLine]
  split
  · exact .still rfl rfl
  · split
    · exact .still rfl progress.places_attachNote
    · split
      · exact .still rfl rfl
      · split
        · exact apply_step progress _
        · exact .still rfl rfl

/-- Lanes, partitions and the places of steps fit together. -/
def IsGrouped (progress : Progress) : Prop :=
  Grouped progress.diagram.swimlanes progress.diagram.partitions progress.openPartitions
    progress.places

/-- The number of steps is the number of their places. -/
theorem length_places (progress : Progress) : (progress.places.length : Int) = progress.count := by
  rw [places, List.length_map, count]

/-- Entering a lane adds it where its name is new. -/
theorem enterLane_grouped {progress : Progress} (grouped : progress.IsGrouped)
    (color : Option String) (label : String) : (progress.enterLane color label).IsGrouped := by
  rw [enterLane]
  split
  · exact grouped
  · next unknown =>
    refine grouped.addLane rfl ?_
    intro known member same
    have notFound := List.find?_eq_none.mp unknown known member
    simp [same] at notFound

/-- Closing a partition ends the innermost one, if one is open. -/
theorem closePartition_grouped {progress : Progress} (grouped : progress.IsGrouped) :
    progress.closePartition.IsGrouped := by
  rw [closePartition]
  split
  · exact grouped
  · next innermost outer opened =>
    rw [IsGrouped, opened] at grouped
    have ended := grouped.close
    rw [length_places] at ended
    exact ended

/-- Every step keeps this. -/
theorem Step.grouped {progress next : Progress} (step : Step progress next)
    (grouped : progress.IsGrouped) : next.IsGrouped := by
  cases step with
  | still same places =>
    simp only [groups, Prod.mk.injEq] at same
    obtain ⟨lanes, partitions, opened, _⟩ := same
    rw [IsGrouped, lanes, partitions, opened, places]
    exact grouped
  | add same places =>
    simp only [groups, Prod.mk.injEq] at same
    obtain ⟨lanes, partitions, opened, _⟩ := same
    rw [IsGrouped, lanes, partitions, opened, places]
    exact grouped.add progress.swimlane
  | enterLane color label => exact enterLane_grouped grouped color label
  | openPartition label =>
    exact grouped.openPartition rfl progress.length_places.symm rfl
  | closePartition => exact closePartition_grouped grouped

/-- What was read of some lines. -/
def afterLines (lines : List String) : Progress := lines.foldl readLine {}

/-- One more line is read behind the others. -/
theorem afterLines_concat (lines : List String) (line : String) :
    afterLines (lines ++ [line]) = (afterLines lines).readLine line := by
  rw [afterLines, List.foldl_concat, ← afterLines]

/-- After any lines everything fits together. -/
theorem afterLines_grouped (lines : List String) : (afterLines lines).IsGrouped := by
  induction lines using List.reverseRecOn with
  | nil => exact .empty
  | append_singleton before line inductionHypothesis =>
    rw [afterLines_concat]
    exact (readLine_step _ line).grouped inductionHypothesis

end Progress

end ActivityDiagram

end Drafting
