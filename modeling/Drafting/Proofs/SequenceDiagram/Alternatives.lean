import Drafting.Proofs.SequenceDiagram.Registration
import Mathlib.Data.Set.Basic

/-!
# Nested alternatives

Alternatives are opened and closed in any order, closed when none is open, or never closed.
Each is given by the numbers of messages at which it begins, changes to its opposite case
and ends. Only the innermost open one is ever changed, and the open ones are known by their
positions in decreasing order. So an alternative that is opened later lies within the
earlier ones that are still open, and behind those that are closed.

The main statement is that the numbers of every alternative are in order, and that of two
alternatives the later one lies within the earlier one or is disjoint from it. It joins this
with the facts on participants, messages and separators.
-/

namespace Drafting

namespace Fragment

/-- The numbers of the messages of an alternative. One that is open reaches on for ever. -/
def range (fragment : Fragment) : Set Int :=
  {number | fragment.startIndex ≤ number ∧ ∀ stop ∈ fragment.endIndex, number < stop}

/-- Start, opposite case and end follow each other, and none is behind `count` messages. -/
structure Ordered (count : Int) (fragment : Fragment) : Prop where
  start : 0 ≤ fragment.startIndex ∧ fragment.startIndex ≤ count
  middle : ∀ middle ∈ fragment.elseIndex, fragment.startIndex ≤ middle ∧ middle ≤ count
  stop : ∀ stop ∈ fragment.endIndex, fragment.startIndex ≤ stop ∧ stop ≤ count
  middle_le_stop : ∀ middle ∈ fragment.elseIndex, ∀ stop ∈ fragment.endIndex, middle ≤ stop

/-- An alternative is closed before another begins. -/
def EndsBefore (first second : Fragment) : Prop :=
  ∃ stop ∈ first.endIndex, stop ≤ second.startIndex

/-- An alternative begins behind the start of another and is closed before it. -/
def Within (inner outer : Fragment) : Prop :=
  outer.startIndex ≤ inner.startIndex ∧
    ∀ stop ∈ outer.endIndex, ∃ own ∈ inner.endIndex, own ≤ stop

/-- An alternative and one that is opened later: the later one lies behind the earlier one or
within it. -/
def Laminar (outer inner : Fragment) : Prop := outer.EndsBefore inner ∨ inner.Within outer

/-- More messages do not disturb the order. -/
theorem Ordered.mono {count more : Int} {fragment : Fragment} (ordered : fragment.Ordered count)
    (grown : count ≤ more) : fragment.Ordered more where
  start := ⟨ordered.start.1, Int.le_trans ordered.start.2 grown⟩
  middle := by
    intro middle member
    obtain ⟨lower, upper⟩ := ordered.middle middle member
    exact ⟨lower, Int.le_trans upper grown⟩
  stop := by
    intro stop member
    obtain ⟨lower, upper⟩ := ordered.stop stop member
    exact ⟨lower, Int.le_trans upper grown⟩
  middle_le_stop := ordered.middle_le_stop

/-- What ends before another begins shares no message with it. -/
theorem EndsBefore.inter_range {first second : Fragment} (before : first.EndsBefore second) :
    first.range ∩ second.range = ∅ := by
  obtain ⟨stop, ends, le⟩ := before
  refine Set.eq_empty_of_forall_notMem ?_
  rintro number ⟨⟨_, early⟩, late, _⟩
  have lower := early stop ends
  omega

/-- What lies within another covers only messages of it. -/
theorem Within.range_subset {inner outer : Fragment} (within : inner.Within outer) :
    inner.range ⊆ outer.range := by
  rintro number ⟨late, early⟩
  obtain ⟨starts, closed⟩ := within
  constructor
  · exact Int.le_trans starts late
  · intro stop ends
    obtain ⟨own, ownEnds, le⟩ := closed stop ends
    exact Int.lt_of_lt_of_le (early own ownEnds) le

/-- While the later of two is open, so is the earlier one if it holds the later one. Closing
the later one leaves it where it is. -/
theorem Laminar.close_inner {outer inner : Fragment} (laminar : Laminar outer inner)
    (isOpen : inner.endIndex = none) (count : Int) :
    Laminar outer { inner with endIndex := some count } := by
  rcases laminar with before | ⟨starts, closed⟩
  · exact .inl before
  · refine .inr ⟨starts, ?_⟩
    intro stop ends
    obtain ⟨own, ownEnds, _⟩ := closed stop ends
    rw [isOpen] at ownEnds
    contradiction

/-- Closing the earlier one of two behind the end of the later one leaves that within it. -/
theorem Laminar.close_outer {outer inner : Fragment} (laminar : Laminar outer inner)
    (isOpen : outer.endIndex = none) {own count : Int} (ends : inner.endIndex = some own)
    (le : own ≤ count) : Laminar { outer with endIndex := some count } inner := by
  rcases laminar with ⟨stop, stops, _⟩ | ⟨starts, _⟩
  · rw [isOpen] at stops
    contradiction
  · refine .inr ⟨starts, ?_⟩
    intro stop isStop
    rw [← Option.some.inj isStop]
    exact ⟨own, ends, le⟩

end Fragment

namespace SequenceDiagram

/-- What holds of alternatives at every moment of reading. Those without an end are the open
ones, listed from the innermost on, which is the one that was opened last. -/
structure Progress.Nested (progress : Progress) : Prop where
  ordered : ∀ (position : Nat) (fragment : Fragment),
    progress.diagram.fragments[position]? = some fragment → fragment.Ordered progress.count
  innermostFirst : progress.alternatives.Pairwise (· > ·)
  open_iff : ∀ position : Nat, position ∈ progress.alternatives ↔
    ∃ fragment, progress.diagram.fragments[position]? = some fragment ∧ fragment.endIndex = none
  laminar : ∀ (first second : Nat) (outer inner : Fragment), first < second →
    progress.diagram.fragments[first]? = some outer →
    progress.diagram.fragments[second]? = some inner → Fragment.Laminar outer inner

namespace Progress.Nested

variable {progress : Progress}

/-- Before the first line there is no alternative. -/
theorem empty : Nested {} where
  ordered := by simp
  innermostFirst := .nil
  open_iff := by simp
  laminar := by simp

/-- The alternative at a position is open exactly if the position is listed. -/
theorem endIndex_eq_none_iff (nested : progress.Nested) {position : Nat} {fragment : Fragment}
    (found : progress.diagram.fragments[position]? = some fragment) :
    fragment.endIndex = none ↔ position ∈ progress.alternatives := by
  rw [nested.open_iff]
  constructor
  · intro isOpen
    exact ⟨fragment, found, isOpen⟩
  · rintro ⟨other, same, isOpen⟩
    rw [found] at same
    exact Option.some.inj same ▸ isOpen

/-- The innermost alternative is open. -/
theorem innermost_open (nested : progress.Nested) {innermost : Nat} {outer : List Nat}
    (alternatives : progress.alternatives = innermost :: outer) {fragment : Fragment}
    (found : progress.diagram.fragments[innermost]? = some fragment) :
    fragment.endIndex = none := by
  rw [nested.endIndex_eq_none_iff found, alternatives]
  exact List.mem_cons_self

/-- What was opened behind the innermost alternative is closed, or it would be listed before
that. -/
theorem closed_behind (nested : progress.Nested) {innermost position : Nat} {outer : List Nat}
    (alternatives : progress.alternatives = innermost :: outer) (behind : innermost < position)
    {fragment : Fragment} (found : progress.diagram.fragments[position]? = some fragment) :
    ∃ stop, fragment.endIndex = some stop := by
  have order := nested.innermostFirst
  rw [alternatives] at order
  refine Option.ne_none_iff_exists'.mp ?_
  intro isOpen
  rw [nested.endIndex_eq_none_iff found, alternatives] at isOpen
  rcases List.mem_cons.mp isOpen with rfl | inside
  · exact Nat.lt_irrefl _ behind
  · have lower := (List.pairwise_cons.mp order).1 position inside
    omega

/-- Where alternatives stay as they are, more messages do no harm. -/
theorem of_same (nested : progress.Nested) {next : Progress}
    (fragments : next.diagram.fragments = progress.diagram.fragments)
    (alternatives : next.alternatives = progress.alternatives)
    (count : progress.count ≤ next.count) : next.Nested where
  ordered := by
    intro position fragment found
    rw [fragments] at found
    exact (nested.ordered position fragment found).mono count
  innermostFirst := alternatives ▸ nested.innermostFirst
  open_iff := by
    rw [alternatives, fragments]
    exact nested.open_iff
  laminar := by
    rw [fragments]
    exact nested.laminar

/-- A new alternative begins behind all messages. It lies within those that are open and
behind those that are closed. -/
theorem openAlternative (nested : progress.Nested) (label : String) :
    (progress.openAlternative label).Nested := by
  let opened : Fragment := { label, startIndex := progress.count }
  constructor
  · intro position fragment found
    rcases getElem?_concat_eq_some_iff.mp found with old | ⟨_, rfl⟩
    · exact nested.ordered position fragment old
    · exact ⟨⟨Int.natCast_nonneg _, Int.le_refl _⟩, by simp, by simp, by simp⟩
  · refine .cons ?_ nested.innermostFirst
    intro position isOpen
    obtain ⟨fragment, found, _⟩ := (nested.open_iff position).mp isOpen
    exact (List.getElem?_eq_some_iff.mp found).1
  · intro position
    constructor
    · intro member
      rcases List.mem_cons.mp member with rfl | outer
      · exact ⟨opened, getElem?_concat_eq_some_iff.mpr (.inr ⟨rfl, rfl⟩), rfl⟩
      · obtain ⟨fragment, old, isOpen⟩ := (nested.open_iff position).mp outer
        exact ⟨fragment, getElem?_concat_eq_some_iff.mpr (.inl old), isOpen⟩
    · rintro ⟨fragment, found, isOpen⟩
      rcases getElem?_concat_eq_some_iff.mp found with old | ⟨rfl, _⟩
      · exact List.mem_cons_of_mem _ ((nested.open_iff position).mpr ⟨fragment, old, isOpen⟩)
      · exact List.mem_cons_self
  · intro first second outer inner before foundOuter foundInner
    rcases getElem?_concat_eq_some_iff.mp foundInner with older | ⟨rfl, rfl⟩
    · have inside := (List.getElem?_eq_some_iff.mp older).1
      rcases getElem?_concat_eq_some_iff.mp foundOuter with old | ⟨rfl, _⟩
      · exact nested.laminar first second outer inner before old older
      · omega
    · rcases getElem?_concat_eq_some_iff.mp foundOuter with old | ⟨rfl, _⟩
      · have ordered := nested.ordered first outer old
        cases closed : outer.endIndex with
        | none => exact .inr ⟨ordered.start.2, by simp [closed]⟩
        | some stop => exact .inl ⟨stop, closed, (ordered.stop stop closed).2⟩
      · exact absurd before (Nat.lt_irrefl _)

/-- The opposite case of the innermost alternative begins behind all messages, while that
alternative has no end yet. -/
theorem otherwise (nested : progress.Nested) : progress.otherwise.Nested := by
  rw [Progress.otherwise]
  split
  · exact nested
  · next innermost _ alternatives =>
    constructor
    · intro position fragment found
      obtain ⟨original, old, rfl⟩ := getElem?_modify_eq_some_iff.mp found
      have ordered := nested.ordered position original old
      split
      · next changed =>
        have isOpen : original.endIndex = none :=
          nested.innermost_open alternatives (changed ▸ old)
        refine ⟨ordered.start, ?_, ordered.stop, by simp [isOpen]⟩
        intro middle isMiddle
        rw [← Option.some.inj isMiddle]
        exact ⟨ordered.start.2, Int.le_refl _⟩
      · exact ordered
    · exact nested.innermostFirst
    · intro position
      refine (nested.open_iff position).trans ?_
      constructor
      · rintro ⟨fragment, old, isOpen⟩
        refine ⟨_, getElem?_modify_eq_some_iff.mpr ⟨fragment, old, rfl⟩, ?_⟩
        split <;> exact isOpen
      · rintro ⟨fragment, found, isOpen⟩
        obtain ⟨original, old, rfl⟩ := getElem?_modify_eq_some_iff.mp found
        refine ⟨original, old, ?_⟩
        split at isOpen <;> exact isOpen
    · intro first second _ _ before foundOuter foundInner
      obtain ⟨outer, oldOuter, rfl⟩ := getElem?_modify_eq_some_iff.mp foundOuter
      obtain ⟨inner, oldInner, rfl⟩ := getElem?_modify_eq_some_iff.mp foundInner
      have laminar := nested.laminar first second outer inner before oldOuter oldInner
      split <;> split <;> exact laminar

/-- Closing the innermost alternative. Those that were opened later are closed already, so
they lie within it; those before it that are closed were closed before it began. -/
theorem close (nested : progress.Nested) : progress.close.Nested := by
  rw [Progress.close]
  split
  · exact nested
  · next innermost outer alternatives =>
    have order := nested.innermostFirst
    rw [alternatives] at order
    obtain ⟨below, rest⟩ := List.pairwise_cons.mp order
    constructor
    · intro position fragment found
      obtain ⟨original, old, rfl⟩ := getElem?_modify_eq_some_iff.mp found
      have ordered := nested.ordered position original old
      split
      · refine ⟨ordered.start, ordered.middle, ?_, ?_⟩
        · intro stop isStop
          rw [← Option.some.inj isStop]
          exact ⟨ordered.start.2, Int.le_refl _⟩
        · intro middle isMiddle stop isStop
          rw [← Option.some.inj isStop]
          exact (ordered.middle middle isMiddle).2
      · exact ordered
    · exact rest
    · intro position
      constructor
      · intro member
        obtain ⟨fragment, old, isOpen⟩ := (nested.open_iff position).mp (by
          rw [alternatives]
          exact List.mem_cons_of_mem _ member)
        refine ⟨fragment, getElem?_modify_eq_some_iff.mpr ⟨fragment, old, ?_⟩, isOpen⟩
        exact if_neg (Nat.ne_of_gt (below position member))
      · rintro ⟨fragment, found, isOpen⟩
        obtain ⟨original, old, rfl⟩ := getElem?_modify_eq_some_iff.mp found
        split at isOpen
        · contradiction
        · next other =>
          rw [nested.endIndex_eq_none_iff old, alternatives] at isOpen
          rcases List.mem_cons.mp isOpen with same | inside
          · exact absurd same.symm other
          · exact inside
    · intro first second _ _ before foundOuter foundInner
      obtain ⟨outer, oldOuter, rfl⟩ := getElem?_modify_eq_some_iff.mp foundOuter
      obtain ⟨inner, oldInner, rfl⟩ := getElem?_modify_eq_some_iff.mp foundInner
      have laminar := nested.laminar first second outer inner before oldOuter oldInner
      by_cases closesOuter : innermost = first
      · subst closesOuter
        obtain ⟨own, closed⟩ := nested.closed_behind alternatives before oldInner
        rw [if_pos rfl, if_neg (Nat.ne_of_lt before)]
        exact laminar.close_outer (nested.innermost_open alternatives oldOuter) closed
          ((nested.ordered second inner oldInner).stop own closed).2
      · rw [if_neg closesOuter]
        split
        · next closesInner =>
          subst closesInner
          exact laminar.close_inner (nested.innermost_open alternatives oldInner) _
        · exact laminar

/-- Registering a participant has nothing to do with alternatives. -/
theorem register (nested : progress.Nested) (name label : String) (kind : ParticipantKind) :
    (progress.register name label kind).Nested := by
  rw [Progress.register]
  split
  · exact nested
  · exact nested.of_same rfl rfl (Int.le_refl _)

/-- Every step keeps alternatives nested. -/
theorem step {next : Progress} (step : Progress.Step progress next) (nested : progress.Nested) :
    next.Nested := by
  cases step with
  | note note => exact nested.of_same rfl rfl (Int.le_refl _)
  | attachNote => exact nested.of_same rfl rfl (Int.le_of_eq progress.count_attachNote.symm)
  | group label => exact nested.of_same rfl rfl (Int.le_refl _)
  | openAlternative label => exact nested.openAlternative label
  | otherwise => exact nested.otherwise
  | close => exact nested.close
  | register name label kind => exact nested.register name label kind
  | addMessage line =>
    have both := (nested.register line.source line.source .participant).register line.target
      line.target .participant
    refine both.of_same rfl rfl ?_
    exact Int.ofNat_le.mpr (List.length_append ▸ Nat.le_add_right _ _)

/-- Whatever lines are read, their alternatives are nested. -/
theorem of_lines {lines : List String} {diagram : SequenceDiagram}
    (read : ofLines lines = .ok diagram) :
    ∃ final : Progress, final.diagram = diagram ∧ final.Nested :=
  Progress.ofLines_keeps empty (fun _ _ => step) read

end Progress.Nested

/-- Whatever lines are read, participants, messages and separators are in order, the numbers
of each alternative follow each other and are at most the number of messages, and of two
alternatives the later one lies within the earlier one or shares no message with it. -/
theorem alternatives_laminar {lines : List String} {diagram : SequenceDiagram}
    (read : ofLines lines = .ok diagram) :
    Registered diagram ∧
      (∀ fragment ∈ diagram.fragments, fragment.Ordered diagram.messages.length) ∧
      diagram.fragments.Pairwise fun earlier later =>
        later.range ⊆ earlier.range ∨ earlier.range ∩ later.range = ∅ := by
  have registered := Registered.of_lines read
  obtain ⟨final, rfl, nested⟩ := Progress.Nested.of_lines read
  refine ⟨registered, ?_, ?_⟩
  · intro fragment member
    obtain ⟨position, found⟩ := List.mem_iff_getElem?.mp member
    exact nested.ordered position fragment found
  · refine List.pairwise_iff_getElem.mpr ?_
    intro first second firstInside secondInside before
    have laminar := nested.laminar first second _ _ before
      (List.getElem?_eq_getElem firstInside) (List.getElem?_eq_getElem secondInside)
    rcases laminar with apart | within
    · exact .inr apart.inter_range
    · exact .inl within.range_subset

/-- Two nested alternatives, the inner one closed twice, and behind them one that stays
open. -/
theorem alternatives_laminar_left_open :
    let lines := ["alt outer", "A -> B : first", "alt inner", "else", "B -> C : second", "end",
      "== later ==", "else", "end", "end", "alt last", "C -> A : third"]
    let outer : Fragment :=
      { label := "outer", startIndex := 0, elseIndex := some 2, endIndex := some 2 }
    let inner : Fragment :=
      { label := "inner", startIndex := 1, elseIndex := some 1, endIndex := some 2 }
    let last : Fragment := { label := "last", startIndex := 2 }
    let diagram : SequenceDiagram :=
      { participants := ["A", "B", "C"].map fun name => { name, label := name }
        messages := [
          { id := 0, source := "A", target := "B", text := "first" },
          { id := 1, source := "B", target := "C", text := "second" },
          { id := 2, source := "C", target := "A", text := "third" }]
        groups := [{ label := "later", startIndex := 2 }]
        fragments := [outer, inner, last] }
    ofLines lines = .ok diagram ∧ Registered diagram ∧
      (∀ fragment ∈ diagram.fragments, fragment.Ordered diagram.messages.length) ∧
      diagram.fragments.Pairwise fun earlier later =>
        later.range ⊆ earlier.range ∨ earlier.range ∩ later.range = ∅ := by
  intro lines outer inner last diagram
  have read : ofLines lines = .ok diagram := by decide +kernel
  exact ⟨read, alternatives_laminar read⟩

end SequenceDiagram

end Drafting
