import Drafting.ActivityDiagram.Reader
import Drafting.Proofs.Split

/-!
# Markers, merges and open decisions

Whatever lines are read, in whatever order blocks are opened and closed, the steps
read so far and the decisions that are open fit together: a marker follows its
decision, a merge follows the markers of its decision, and a decision that is open
has no merge yet. Each line keeps this, and it suffices to see that a marker or a
merge always belongs to the innermost open decision.

Notes play no part in it, so facts about steps are stated up to their notes.
-/

namespace Drafting

namespace Activity

/-- A step without its note. -/
def outline (activity : Activity) : Activity := { activity with note := none }

/-- Steps are numbered by their places, a marker has its decision before it, and a
merge has no marker of its decision behind it. -/
structure Ordered (activities : List Activity) : Prop where
  ids : ∀ before activity after, activities = before ++ activity :: after →
    activity.id = before.length
  markers : ∀ before marker after, activities = before ++ marker :: after →
    marker.kind.isMarker = true →
    ∃ decision ∈ before, decision.kind = .decision ∧
      marker.relatedDecision = some decision.id
  merges : ∀ before merge after, activities = before ++ merge :: after →
    merge.kind = .merge → ∀ marker ∈ after, marker.kind.isMarker = true →
    marker.relatedDecision ≠ merge.relatedDecision

/-- Steps are ordered and fit the decisions that are open, innermost first. -/
structure Nested (activities : List Activity) (opened : List Int) : Prop where
  ordered : Ordered activities
  related : ∀ activity ∈ activities, ∀ decision, activity.relatedDecision = some decision →
    decision < activities.length
  decisions : ∀ id ∈ opened, ∃ decision ∈ activities, decision.kind = .decision ∧
    decision.id = id
  unmerged : ∀ id ∈ opened, ∀ merge ∈ activities, merge.kind = .merge →
    merge.relatedDecision ≠ some id
  distinct : opened.Nodup

/-- A member of ordered steps is numbered within the list. -/
theorem Ordered.id_lt {activities : List Activity} (ordered : Ordered activities)
    {activity : Activity} (member : activity ∈ activities) : activity.id < activities.length := by
  obtain ⟨before, after, split⟩ := List.append_of_mem member
  rw [ordered.ids before activity after split, split]
  simp only [List.length_append, List.length_cons]
  omega

/-- The numbers of ordered steps are their places. -/
theorem Ordered.numbers {activities : List Activity} (ordered : Ordered activities) :
    activities.map Activity.id = (List.range activities.length).map Int.ofNat := by
  apply List.ext_getElem
  · simp
  · intro index bound _
    have inside : index < activities.length := by simpa using bound
    have split : activities = activities.take index ++ activities[index] ::
        activities.drop (index + 1) := by simp
    have number := ordered.ids _ _ _ split
    simpa [Nat.min_eq_left (Nat.le_of_lt inside)] using number

/-- Two members of ordered steps with the same number are the same. -/
theorem Ordered.eq_of_id {activities : List Activity} (ordered : Ordered activities)
    {first second : Activity} (firstMember : first ∈ activities)
    (secondMember : second ∈ activities) (same : first.id = second.id) : first = second := by
  obtain ⟨before, after, split⟩ := List.append_of_mem firstMember
  obtain ⟨otherBefore, otherAfter, otherSplit⟩ := List.append_of_mem secondMember
  have length : before.length = otherBefore.length := by
    have numbers := ordered.ids before first after split
    have otherNumbers := ordered.ids otherBefore second otherAfter otherSplit
    omega
  have parts := List.append_inj (split.symm.trans otherSplit) length
  simpa using (List.cons.inj parts.2).1

/-- Steps stay ordered when one more is added under the next number. A marker needs
its decision among the steps and no merge of it. -/
theorem Ordered.concat {activities : List Activity} (ordered : Ordered activities)
    {last : Activity} (id : last.id = activities.length)
    (marker : last.kind.isMarker = true →
      (∃ decision ∈ activities, decision.kind = .decision ∧
        last.relatedDecision = some decision.id) ∧
      ∀ merge ∈ activities, merge.kind = .merge →
        last.relatedDecision ≠ merge.relatedDecision) :
    Ordered (activities ++ [last]) := by
  refine ⟨?_, ?_, ?_⟩
  · intro before activity after split
    rcases split_of_concat split with ⟨rfl, rfl, _⟩ | ⟨rest, _, earlier⟩
    · exact id
    · exact ordered.ids before activity rest earlier
  · intro before activity after split isMarker
    rcases split_of_concat split with ⟨rfl, rfl, _⟩ | ⟨rest, _, earlier⟩
    · exact (marker isMarker).1
    · exact ordered.markers before activity rest earlier isMarker
  · intro before merge after split isMerge other member isMarker
    rcases split_of_concat split with ⟨_, _, rfl⟩ | ⟨rest, rfl, earlier⟩
    · exact absurd member (by simp)
    · rcases List.mem_append.mp member with inside | added
      · exact ordered.merges before merge rest earlier isMerge other inside isMarker
      · obtain rfl : other = last := by simpa using added
        exact (marker isMarker).2 merge (by simp [earlier]) isMerge

/-- Where lists of steps have the same outlines, each split of one is a split of the
other at a step with the same outline. -/
theorem split_of_outline {first second before after : List Activity} {activity : Activity}
    (same : first.map outline = second.map outline) (split : first = before ++ activity :: after) :
    ∃ before' activity' after', second = before' ++ activity' :: after' ∧
      before'.map outline = before.map outline ∧ activity'.outline = activity.outline ∧
      after'.map outline = after.map outline := by
  rw [split, List.map_append, List.map_cons] at same
  obtain ⟨before', behind, rfl, sameBefore, sameBehind⟩ := List.map_eq_append_iff.mp same.symm
  obtain ⟨activity', after', rfl, sameActivity, sameAfter⟩ := List.map_eq_cons_iff.mp sameBehind
  exact ⟨before', activity', after', rfl, sameBefore, sameActivity, sameAfter⟩

/-- A step of a list has a step of the same outline in each list with the same
outlines. -/
theorem mem_of_outline {first second : List Activity} {activity : Activity}
    (same : first.map outline = second.map outline) (member : activity ∈ first) :
    ∃ other ∈ second, other.outline = activity.outline := by
  have inside : activity.outline ∈ second.map outline :=
    same ▸ List.mem_map_of_mem member
  exact List.mem_map.mp inside

/-- Steps with the same outline agree in everything but their notes. -/
theorem eq_of_outline {first second : Activity} (same : first.outline = second.outline) :
    first.id = second.id ∧ first.kind = second.kind ∧
      first.relatedDecision = second.relatedDecision := by
  simp only [outline, Activity.mk.injEq] at same
  obtain ⟨id, kind, _, _, _, related, _⟩ := same
  exact ⟨id, kind, related⟩

/-- Being ordered does not depend on notes. -/
theorem Ordered.of_outline {first second : List Activity}
    (same : second.map outline = first.map outline) (ordered : Ordered first) :
    Ordered second := by
  refine ⟨?_, ?_, ?_⟩
  · intro before activity after split
    obtain ⟨before', activity', after', split', sameBefore, sameActivity, _⟩ :=
      split_of_outline same split
    have length := congrArg List.length sameBefore
    simp only [List.length_map] at length
    rw [← (eq_of_outline sameActivity).1, ordered.ids before' activity' after' split', length]
  · intro before marker after split isMarker
    obtain ⟨before', marker', after', split', sameBefore, sameMarker, _⟩ :=
      split_of_outline same split
    obtain ⟨_, kind, related⟩ := eq_of_outline sameMarker
    obtain ⟨decision', member, isDecision, refers⟩ :=
      ordered.markers before' marker' after' split' (kind ▸ isMarker)
    obtain ⟨decision, inside, sameDecision⟩ := mem_of_outline sameBefore member
    obtain ⟨id, decisionKind, _⟩ := eq_of_outline sameDecision
    exact ⟨decision, inside, decisionKind.trans isDecision, by rw [← related, refers, id]⟩
  · intro before merge after split isMerge marker member isMarker
    obtain ⟨before', merge', after', split', _, sameMerge, sameAfter⟩ :=
      split_of_outline same split
    obtain ⟨marker', inside, sameMarker⟩ := mem_of_outline sameAfter.symm member
    obtain ⟨_, mergeKind, mergeRelated⟩ := eq_of_outline sameMerge
    obtain ⟨_, markerKind, markerRelated⟩ := eq_of_outline sameMarker
    rw [← mergeRelated, ← markerRelated]
    exact ordered.merges before' merge' after' split' (mergeKind.trans isMerge) marker' inside
      (markerKind ▸ isMarker)

/-- Fitting the open decisions does not depend on notes. -/
theorem Nested.of_outline {first second : List Activity} {opened : List Int}
    (same : second.map outline = first.map outline) (nested : Nested first opened) :
    Nested second opened := by
  refine ⟨nested.ordered.of_outline same, ?_, ?_, ?_, nested.distinct⟩
  · intro activity member decision refers
    obtain ⟨activity', inside, sameActivity⟩ := mem_of_outline same member
    have length := congrArg List.length same
    simp only [List.length_map] at length
    rw [length]
    exact nested.related activity' inside decision
      ((eq_of_outline sameActivity).2.2.trans refers)
  · intro id member
    obtain ⟨decision', inside, isDecision, numbered⟩ := nested.decisions id member
    obtain ⟨decision, decisionMember, sameDecision⟩ := mem_of_outline same.symm inside
    obtain ⟨sameId, kind, _⟩ := eq_of_outline sameDecision
    exact ⟨decision, decisionMember, kind.trans isDecision, sameId.trans numbered⟩
  · intro id member merge mergeMember isMerge refers
    obtain ⟨merge', inside, sameMerge⟩ := mem_of_outline same mergeMember
    obtain ⟨_, kind, related⟩ := eq_of_outline sameMerge
    exact nested.unmerged id member merge' inside (kind.trans isMerge) (related.trans refers)

/-- Nothing was read yet. -/
theorem nested_nil : Nested [] [] :=
  ⟨⟨by simp, by simp, by simp⟩, by simp, by simp, by simp, List.nodup_nil⟩

/-- One more step fits what is still open afterwards, provided that a marker or a
merge belongs to an earlier decision and a merge to none that stays open. -/
theorem Nested.concat {activities : List Activity} {opened remaining : List Int}
    (nested : Nested activities opened) (stays : remaining.Sublist opened) {last : Activity}
    (id : last.id = activities.length)
    (related : ∀ decision, last.relatedDecision = some decision → decision ∈ opened)
    (marker : last.kind.isMarker = true → last.relatedDecision ≠ none)
    (merge : last.kind = .merge → ∀ decision ∈ remaining,
      last.relatedDecision ≠ some decision) :
    Nested (activities ++ [last]) remaining := by
  refine ⟨nested.ordered.concat id ?_, ?_, ?_, ?_, stays.nodup nested.distinct⟩
  · intro isMarker
    obtain ⟨own, refers⟩ := Option.ne_none_iff_exists'.mp (marker isMarker)
    obtain ⟨decision, inside, isDecision, numbered⟩ := nested.decisions own (related own refers)
    refine ⟨⟨decision, inside, isDecision, by rw [refers, numbered]⟩, ?_⟩
    intro other member isMerge same
    exact nested.unmerged own (related own refers) other member isMerge (same ▸ refers)
  · intro activity member decision refers
    rw [List.length_append, List.length_singleton]
    rcases List.mem_append.mp member with inside | added
    · have bound := nested.related activity inside decision refers
      omega
    · obtain rfl : activity = last := by simpa using added
      obtain ⟨own, inside, _, numbered⟩ := nested.decisions decision (related decision refers)
      have bound := nested.ordered.id_lt inside
      omega
  · intro opening member
    obtain ⟨decision, inside, isDecision⟩ := nested.decisions opening (stays.subset member)
    exact ⟨decision, List.mem_append_left _ inside, isDecision⟩
  · intro opening member other otherMember isMerge
    rcases List.mem_append.mp otherMember with inside | added
    · exact nested.unmerged opening (stays.subset member) other inside isMerge
    · obtain rfl : other = last := by simpa using added
      exact merge isMerge opening member

/-- A step that belongs to no decision fits any open decisions. -/
theorem Nested.plain {activities : List Activity} {opened : List Int}
    (nested : Nested activities opened) {last : Activity} (id : last.id = activities.length)
    (notMarker : last.kind.isMarker = false) (unrelated : last.relatedDecision = none) :
    Nested (activities ++ [last]) opened :=
  nested.concat (.refl opened) id (by simp [unrelated]) (by simp [notMarker])
    (by simp [unrelated])

/-- A decision may be added and opened. Its number is new, so no merge is one of
it. -/
theorem Nested.decision {activities : List Activity} {opened : List Int}
    (nested : Nested activities opened) {last : Activity} (id : last.id = activities.length)
    (isDecision : last.kind = .decision) (unrelated : last.relatedDecision = none) :
    Nested (activities ++ [last]) (last.id :: opened) := by
  have plain := nested.plain id (by simp [isDecision, ActivityKind.isMarker]) unrelated
  refine ⟨plain.ordered, plain.related, ?_, ?_, ?_⟩
  · intro opening member
    rcases List.mem_cons.mp member with rfl | earlier
    · exact ⟨last, by simp, isDecision, rfl⟩
    · exact plain.decisions opening earlier
  · intro opening member merge mergeMember isMerge refers
    rcases List.mem_cons.mp member with rfl | earlier
    · rcases List.mem_append.mp mergeMember with inside | added
      · have bound := nested.related merge inside last.id refers
        omega
      · obtain rfl : merge = last := by simpa using added
        simp [isDecision] at isMerge
    · exact plain.unmerged opening earlier merge mergeMember isMerge refers
  · refine List.nodup_cons.mpr ⟨?_, nested.distinct⟩
    intro earlier
    obtain ⟨decision, inside, _, numbered⟩ := nested.decisions last.id earlier
    have bound := nested.ordered.id_lt inside
    omega

/-- A marker of the innermost open decision may be added. -/
theorem Nested.marker {activities : List Activity} {innermost : Int} {outer : List Int}
    (nested : Nested activities (innermost :: outer)) {last : Activity}
    (id : last.id = activities.length) (notMerge : last.kind ≠ .merge)
    (refers : last.relatedDecision = some innermost) :
    Nested (activities ++ [last]) (innermost :: outer) :=
  nested.concat (.refl _) id (by simp [refers]) (by simp [refers])
    (absurd · notMerge)

/-- A step of the innermost open decision may be added and close it, also a merge:
the other open decisions have other numbers. -/
theorem Nested.close {activities : List Activity} {innermost : Int} {outer : List Int}
    (nested : Nested activities (innermost :: outer)) {last : Activity}
    (id : last.id = activities.length) (refers : last.relatedDecision = some innermost) :
    Nested (activities ++ [last]) outer := by
  have apart : innermost ∉ outer := (List.nodup_cons.mp nested.distinct).1
  refine nested.concat (List.sublist_cons_self _ _) id (by simp [refers]) (by simp [refers]) ?_
  intro _ decision member same
  obtain rfl : innermost = decision := Option.some.inj (refers.symm.trans same)
  exact apart member

end Activity

namespace ActivityDiagram.Progress

open Activity

/-- The numbers of the open decisions, innermost first. -/
def opened (progress : Progress) : List Int := progress.decisions.map OpenDecision.id

/-- The steps read so far fit the decisions that are open. -/
def Fits (progress : Progress) : Prop := Nested progress.diagram.activities progress.opened

/-- Where steps and open decisions are the same, they still fit. -/
theorem Fits.of_same {progress next : Progress} (fits : progress.Fits)
    (activities : next.diagram.activities = progress.diagram.activities)
    (decisions : next.decisions = progress.decisions) : next.Fits := by
  unfold Fits opened
  rw [activities, decisions]
  exact fits

/-- A marker belongs to the innermost open decision, and without one it is left
out. -/
theorem addBranch_fits {progress : Progress} (fits : progress.Fits) {kind : ActivityKind}
    (notMerge : kind ≠ .merge) (condition : Option String) (branch : String) :
    (progress.addBranch kind condition branch).Fits := by
  cases decisions : progress.decisions with
  | nil => simpa [addBranch, decisions] using fits
  | cons innermost outer =>
    have nested : Nested progress.diagram.activities
        (innermost.id :: outer.map OpenDecision.id) := by
      simpa [Fits, opened, decisions] using fits
    let marker : Activity := { step kind branch with
      id := progress.count
      condition
      relatedDecision := some innermost.id
      swimlane := progress.swimlane
      partition := progress.openPartitions.head? }
    have added : Nested (progress.diagram.activities ++ [marker]) _ :=
      nested.marker rfl notMerge rfl
    simpa [Fits, opened, addBranch, decisions, add] using added

/-- A merge closes the innermost open decision, and without one it is left out. -/
theorem closeDecision_fits {progress : Progress} (fits : progress.Fits) :
    progress.closeDecision.Fits := by
  cases decisions : progress.decisions with
  | nil => simpa [closeDecision, decisions] using fits
  | cons innermost outer =>
    have nested : Nested progress.diagram.activities
        (innermost.id :: outer.map OpenDecision.id) := by
      simpa [Fits, opened, decisions] using fits
    let merge : Activity := { step .merge with
      id := progress.count
      relatedDecision := some innermost.id
      swimlane := progress.swimlane
      partition := progress.openPartitions.head? }
    have added : Nested (progress.diagram.activities ++ [merge]) _ := nested.close rfl rfl
    simpa [Fits, opened, closeDecision, decisions, add] using added

/-- Every statement keeps the steps fitting. -/
theorem apply_fits {progress : Progress} (fits : progress.Fits) (statement : Statement) :
    (progress.apply statement).Fits := by
  cases statement with
  | lane color label =>
    refine fits.of_same ?_ ?_ <;> simp only [apply, enterLane] <;> split <;> rfl
  | openPartition label => exact fits.of_same rfl rfl
  | closePartition =>
    refine fits.of_same ?_ ?_ <;> simp only [apply, closePartition] <;> split <;> rfl
  | start => exact Nested.plain fits rfl rfl rfl
  | stop => exact Nested.plain fits rfl rfl rfl
  | fork => exact Nested.plain fits rfl rfl rfl
  | action label => exact Nested.plain fits rfl rfl rfl
  | ifThen condition branch => exact Nested.decision fits rfl rfl rfl
  | elseIf condition branch => exact addBranch_fits fits (by decide) (some condition) branch
  | elseBranch branch => exact addBranch_fits fits (by decide) none branch
  | endIf => exact closeDecision_fits fits
  | whileLoop condition branch => exact Nested.plain fits rfl rfl rfl
  | endWhile => exact Nested.plain fits rfl rfl rfl

/-- Attaching a note leaves the outlines of the steps as they are. -/
theorem attachNote_outlines (progress : Progress) :
    progress.attachNote.diagram.activities.map outline =
      progress.diagram.activities.map outline := by
  rcases List.eq_nil_or_concat progress.diagram.activities with empty | ⟨before, last, ends⟩
  · simp [attachNote, empty]
  · simp [attachNote, ends, outline]

/-- Every line keeps the steps fitting. -/
theorem readLine_fits {progress : Progress} (fits : progress.Fits) (line : String) :
    (progress.readLine line).Fits := by
  simp only [readLine]
  split
  · exact fits.of_same rfl rfl
  · split
    · exact Nested.of_outline progress.attachNote_outlines fits
    · split
      · exact fits.of_same rfl rfl
      · split
        · exact apply_fits fits _
        · exact fits

/-- After any lines the steps fit the open decisions. -/
theorem readLines_fit {progress : Progress} (fits : progress.Fits) (lines : List String) :
    (lines.foldl readLine progress).Fits := by
  induction lines generalizing progress with
  | nil => exact fits
  | cons line others inductionHypothesis => exact inductionHypothesis (readLine_fits fits line)

end ActivityDiagram.Progress

/-- The steps of a diagram that was read are ordered, whatever the lines are. -/
theorem ActivityDiagram.ofLines_ordered (lines : List String) :
    Activity.Ordered (ofLines lines).activities := by
  have blank : Progress.Fits {} := Activity.nested_nil
  exact (Progress.readLines_fit blank _).ordered

end Drafting
