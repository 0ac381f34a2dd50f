import Drafting.Proofs.ActivityDiagram.Partitions
import Drafting.Proofs.ActivityDiagram.Places

/-!
# Frames of partitions

A partition is read with a range of steps, but it is drawn around its own steps, those that it is
the innermost partition of. A partition within it takes its steps away.

The main statement tells for every partition whether it has a frame, and whether the frame reaches
over the nodes of all steps in its range: the first of them must be its own, and the last one, too,
or the last but one if both are low.
-/

namespace Drafting

/-- The least of increasing numbers is the first one. -/
theorem foldl_min_of_increasing {first : Int} {others : List Int}
    (increasing : (first :: others).Pairwise (· < ·)) : others.foldl min first = first := by
  have least : (first :: others).min? = some first := by
    refine List.min?_eq_some_iff.mpr ⟨List.mem_cons_self, List.forall_mem_cons.mpr ⟨le_rfl, ?_⟩⟩
    exact fun number member => ((List.pairwise_cons.mp increasing).1 number member).le
  rw [List.min?_cons'] at least
  exact Option.some.inj least

namespace Partition

/-- Whether a partition is the innermost one around a step. -/
def owns (group : Partition) (step : Activity) : Bool := step.partition == some group.id

/-- The steps that are drawn in the range of a partition. -/
def inside (group : Partition) (activities : List Activity) : List Activity :=
  (activities.filter fun step => group.covers step.id).filter Activity.isDrawn

/-- Where the own steps of a partition stand. -/
def ownPlaces (group : Partition) (places : List (Activity × Int)) : List (Activity × Int) :=
  places.filter fun place => group.owns place.1

/-- The last of some steps is the partition's own, or the last but one is and the last one ends at
most seventy below the place where that one begins. -/
def EndsIn (group : Partition) (steps : List Activity) : Prop :=
  ∃ last ∈ steps.getLast?, group.owns last = true ∨
    ∃ step ∈ steps.dropLast.getLast?, group.owns step = true ∧
      Activity.drop step.kind + last.kind.nodeHeight ≤ 70

/-- Steps of other partitions are left out. -/
theorem ownPlaces_eq_nil_iff {group : Partition} {places : List (Activity × Int)} :
    group.ownPlaces places = [] ↔ ∀ step ∈ places.map Prod.fst, group.owns step = false := by
  rw [ownPlaces, List.filter_eq_nil_iff, List.forall_mem_map]
  simp only [Bool.not_eq_true]

/-- The steps in the range of a partition follow each other. -/
theorem exists_range {activities : List Activity}
    (numbered : NumberedBy Activity.id activities) (group : Partition) :
    ∃ before after, activities =
        before ++ activities.filter (fun step => group.covers step.id) ++ after ∧
      ∀ step ∈ before ++ after, group.covers step.id = false := by
  let earlier := activities.filter fun step => decide (step.id < group.startIndex)
  let begun := activities.filter fun step => decide (group.startIndex ≤ step.id)
  have cut := filter_lt_append_filter_le numbered.increasing group.startIndex
  have outside : ∀ step ∈ earlier, group.covers step.id = false := by
    intro step member
    have early := of_decide_eq_true (List.mem_filter.mp member).2
    rw [covers, decide_eq_false (by omega), Bool.false_and]
  cases ends : group.endIndex with
  | none =>
    have open_range : (fun step : Activity => group.covers step.id) =
        fun step => decide (group.startIndex ≤ step.id) := by
      funext step
      rw [covers, ends, Option.all_none, Bool.and_true]
    refine ⟨earlier, [], by rw [open_range, List.append_nil, cut], ?_⟩
    rw [List.append_nil]
    exact outside
  | some behind =>
    have range : activities.filter (fun step => group.covers step.id) =
        begun.filter fun step => decide (step.id < behind) := by
      rw [List.filter_filter]
      refine List.filter_congr fun step _ => ?_
      rw [covers, ends, Option.all_some, Bool.and_comm]
    have second := filter_lt_append_filter_le
      (numbered.increasing.filter fun step => decide (group.startIndex ≤ step.id)) behind
    refine ⟨earlier, begun.filter fun step => decide (behind ≤ step.id), ?_, ?_⟩
    · rw [range, List.append_assoc, second, cut]
    · intro step member
      rcases List.mem_append.mp member with early | late
      · exact outside step early
      · have passed := of_decide_eq_true (List.mem_filter.mp late).2
        rw [covers, ends, Option.all_some, decide_eq_false (p := step.id < behind) (by omega),
          Bool.and_false]

/-- The places of the steps of a partition are those at which its own steps stand. -/
theorem memberTops_eq {activities : List Activity} (distinct : (activities.map Activity.id).Nodup)
    (group : Partition) (top : Int) :
    group.memberTops activities (Activity.tops top activities) =
      (group.ownPlaces (Activity.stands top activities)).map Prod.snd := by
  let own? (step : Activity) : Option Int :=
    if group.owns step then Activity.topOf? (Activity.tops top activities) step.id else none
  have undrawn : ∀ step ∈ activities,
      own? step = if step.isDrawn then own? step else none := by
    intro step member
    cases drawn : step.isDrawn with
    | true => rfl
    | false => simp only [own?, Activity.topOf?_of_marker distinct member drawn, ite_self]
  calc group.memberTops activities (Activity.tops top activities)
      = activities.filterMap own? := List.filterMap_filter
    _ = (activities.filter Activity.isDrawn).filterMap own? := by
        rw [List.filterMap_filter]
        exact List.filterMap_congr undrawn
    _ = (Activity.stands top activities).filterMap fun place => own? place.1 := by
        rw [← Activity.map_fst_stands top, List.filterMap_map]
        rfl
    _ = (Activity.stands top activities).filterMap fun place =>
          if group.owns place.1 then some place.2 else none := by
        refine List.filterMap_congr ?_
        rintro ⟨step, own⟩ member
        simp only [own?, Activity.topOf?_of_stands distinct member]
    _ = _ := by
        rw [ownPlaces, ← List.filterMap_eq_map, List.filterMap_filter]
        rfl

/-- Twenty above the first of a partition's own steps is above all steps exactly if none of another
partition is before it. -/
theorem begins_iff (group : Partition) {places : List (Activity × Int)} {first : Activity × Int}
    (ordered : places.Pairwise fun upper lower => upper.2 + Activity.drop upper.1.kind ≤ lower.2)
    (head : (group.ownPlaces places).head? = some first) :
    (∀ place ∈ places, first.2 - 20 ≤ place.2) ↔
      ∃ place ∈ places.head?, group.owns place.1 = true := by
  cases places with
  | nil => contradiction
  | cons place others =>
    obtain ⟨above, _⟩ := List.pairwise_cons.mp ordered
    have room := place.1.kind.drop_bound
    rw [ownPlaces] at head
    rw [List.head?_cons, List.forall_mem_cons]
    simp only [Option.mem_some_iff, exists_eq_left']
    cases own : group.owns place.1 with
    | true =>
      rw [List.filter_cons_of_pos (by simpa using own), List.head?_cons] at head
      obtain rfl := Option.some.inj head
      refine iff_of_true ⟨by omega, fun later member => ?_⟩ rfl
      have := above later member
      omega
    | false =>
      rw [List.filter_cons_of_neg (by simp [own])] at head
      have below := above first (List.mem_filter.mp (List.mem_of_head? head)).1
      refine iff_of_false ?_ Bool.false_ne_true
      rintro ⟨reached, _⟩
      omega

/-- The last of a partition's own steps stands below the room of all steps before it. -/
theorem getLast?_own (group : Partition) (top : Int) {before after : List Activity}
    {step : Activity} (drawn : step.isDrawn = true) (own : group.owns step = true)
    (others : ∀ later ∈ after, group.owns later = false) :
    (group.ownPlaces (Activity.stands top (before ++ step :: after))).getLast? =
      some (step, top + Activity.room before) := by
  have behind (bottom : Int) :
      (Activity.stands bottom after).filter (fun place => group.owns place.1) = [] := by
    refine ownPlaces_eq_nil_iff.mpr (List.forall_mem_map.mpr ?_)
    rintro ⟨later, _⟩ member
    exact others later (Activity.mem_of_stands member)
  rw [ownPlaces, Activity.stands_append, List.filter_append, Activity.stands, if_pos drawn,
    List.filter_cons_of_pos (by simpa using own), behind, List.getLast?_concat]

/-- Where the last of a partition's own steps is known, the partition ends in the steps exactly if
at most one low step stands behind that one. -/
theorem endsIn_iff {group : Partition} {before after : List Activity} {step : Activity}
    (own : group.owns step = true) (others : ∀ later ∈ after, group.owns later = false) :
    group.EndsIn (before ++ step :: after) ↔
      after = [] ∨ ∃ last, after = [last] ∧
        Activity.drop step.kind + last.kind.nodeHeight ≤ 70 := by
  rcases after with _ | ⟨next, _ | ⟨second, rest⟩⟩
  · simp [EndsIn, own]
  · have foreign := others next List.mem_cons_self
    rw [EndsIn, List.getLast?_append_cons, List.dropLast_append_cons]
    simp [own, foreign]
  · refine iff_of_false ?_ (by simp)
    rintro ⟨last, isLast, own_last | ⟨former, isFormer, own_former, _⟩⟩
    · rw [List.getLast?_append_cons, List.getLast?_cons_cons] at isLast
      have member := List.mem_of_getLast? isLast
      exact Bool.false_ne_true ((others last member).symm.trans own_last)
    · rw [List.dropLast_append_cons, List.dropLast_cons_cons, List.getLast?_append_cons,
        List.dropLast_cons_cons, List.getLast?_cons_cons, ← List.dropLast_cons_cons] at isFormer
      have member := List.dropLast_subset _ (List.mem_of_getLast? isFormer)
      exact Bool.false_ne_true ((others former member).symm.trans own_former)

/-- Of the steps behind a step, only a low one can end within seventy from where the step begins,
and only if no other follows. -/
theorem behind_iff {steps : List Activity} (drawn : ∀ step ∈ steps, step.isDrawn = true)
    (kind : ActivityKind) (top : Int) :
    (∀ place ∈ Activity.stands (top + Activity.drop kind) steps,
        place.2 + place.1.kind.nodeHeight ≤ top + 70) ↔
      steps = [] ∨ ∃ last, steps = [last] ∧ Activity.drop kind + last.kind.nodeHeight ≤ 70 := by
  rcases steps with _ | ⟨next, _ | ⟨second, rest⟩⟩
  · simp [Activity.stands]
  · simp only [Activity.stands, drawn next List.mem_cons_self, if_true, List.forall_mem_singleton,
      reduceCtorEq, false_or, List.cons.injEq, and_true, exists_eq_left']
    omega
  · refine iff_of_false ?_ (by simp)
    intro within
    rw [Activity.stands, if_pos (drawn next (by simp)), Activity.stands,
      if_pos (drawn second (by simp)), List.forall_mem_cons, List.forall_mem_cons] at within
    have far := within.2.1
    dsimp only at far
    have first := kind.drop_bound
    have between := next.kind.drop_bound
    have low := second.kind.nodeHeight_bound
    omega

/-- Seventy below the last of a partition's own steps is below the nodes of all steps exactly if
the partition ends in these steps. -/
theorem ends_iff (group : Partition) {steps : List Activity}
    (drawn : ∀ step ∈ steps, step.isDrawn = true) {top : Int} {last : Activity × Int}
    (final : (group.ownPlaces (Activity.stands top steps)).getLast? = some last) :
    (∀ place ∈ Activity.stands top steps, place.2 + place.1.kind.nodeHeight ≤ last.2 + 70) ↔
      group.EndsIn steps := by
  obtain ⟨member, isOwn⟩ := List.mem_filter.mp (List.mem_of_getLast? final)
  obtain ⟨before, step, after, rfl, own, others⟩ :=
    exists_last_chosen group.owns ⟨last.1, Activity.mem_of_stands member, isOwn⟩
  have stepDrawn := drawn step (by simp)
  rw [group.getLast?_own top stepDrawn own others] at final
  obtain rfl := Option.some.inj final
  have ordered := Activity.stands_pairwise top (before ++ step :: after)
  rw [Activity.stands_append, Activity.stands, if_pos stepDrawn] at ordered ⊢
  have early : ∀ place ∈ Activity.stands top before,
      place.2 + place.1.kind.nodeHeight ≤ top + Activity.room before + 70 := by
    intro place earlier
    have := (List.pairwise_append.mp ordered).2.2 place earlier _ List.mem_cons_self
    have := place.1.kind.nodeHeight_le
    omega
  have itself := step.kind.nodeHeight_bound
  -- only steps behind the last own one may reach below the frame
  rw [List.forall_mem_append, List.forall_mem_cons, and_iff_right early,
    and_iff_right (by dsimp only; omega), endsIn_iff own others]
  exact behind_iff (fun later member => drawn later (by simp [member])) step.kind _

end Partition

namespace ActivityDiagram

/-- The frame of a partition begins above the first of its own steps and ends below the last. -/
theorem partitionFrame?_eq {diagram : ActivityDiagram}
    (distinct : (diagram.activities.map Activity.id).Nodup) (group : Partition) :
    let own := group.ownPlaces (Activity.stands diagram.firstTop diagram.activities)
    diagram.partitionFrame? group = own.head?.bind fun first => own.getLast?.map fun last =>
      .ofInt 110 (first.2 - 20) 280 (last.2 - (first.2 - 20) + 70) := by
  intro own
  have members : group.memberTops diagram.activities diagram.tops = own.map Prod.snd :=
    group.memberTops_eq distinct diagram.firstTop
  have increasing : (own.map Prod.snd).Pairwise (· < ·) := by
    refine List.pairwise_map.mpr (((Activity.stands_pairwise _ _).filter _).imp ?_)
    intro upper lower below
    have := upper.1.kind.drop_bound
    omega
  rw [partitionFrame?, Partition.figure?, members]
  cases places : own with
  | nil => rfl
  | cons first others =>
    rw [places, List.map_cons] at increasing
    have lowest := Partition.max?_of_increasing increasing
    rw [List.max?_cons', ← List.map_cons, List.getLast?_map, eq_comm,
      Option.map_eq_some_iff] at lowest
    obtain ⟨last, isLast, same⟩ := lowest
    rw [List.head?_cons, Option.bind_some, isLast, Option.map_some, same]
    simp only [List.map_cons, foldl_min_of_increasing increasing]
    rfl

/-- A step that has a partition stands in its range. -/
theorem Grouped.covers_of_place {lanes : List Swimlane} {partitions : List Partition}
    {opened : List Int} {places : List (Option Int × Option Int)}
    (grouped : Grouped lanes partitions opened places) {group : Partition}
    (member : group ∈ partitions) {position : Nat} {place : Option Int × Option Int}
    (found : places[position]? = some place) (own : place.2 = some group.id) :
    group.covers position = true := by
  have around := grouped.members position place found
  rw [own, eq_comm, Partition.around?, List.max?_eq_some_iff] at around
  obtain ⟨other, covering, same⟩ := List.mem_map.mp around.1
  obtain ⟨otherMember, covers⟩ := List.mem_filter.mp covering
  exact grouped.partitionsNumbered.eq_of_number otherMember member same ▸ covers

/-- A step that was read in a partition is numbered within its range. -/
theorem covers_of_owns {lines : List String} {group : Partition}
    (member : group ∈ (ofLines lines).partitions) {step : Activity}
    (stepMember : step ∈ (ofLines lines).activities) (own : group.owns step = true) :
    group.covers step.id = true := by
  obtain ⟨position, found⟩ := List.mem_iff_getElem?.mp stepMember
  let kept := lines.filter fun line => !isDirective directives line
  have grouped := Progress.afterLines_grouped kept
  have placed : (Progress.afterLines kept).places[position]? = some step.place := by
    rw [Progress.places, List.getElem?_map]
    exact congrArg (Option.map Activity.place) found
  rw [(ofLines_numbered lines).number_of_getElem? found]
  exact grouped.covers_of_place member placed (eq_of_beq own)

/-- A partition's own steps stand among those in its range. -/
theorem exists_top {lines : List String} {group : Partition}
    (member : group ∈ (ofLines lines).partitions) :
    let diagram := ofLines lines
    let places := Activity.stands diagram.firstTop diagram.activities
    ∃ top,
      (∀ place ∈ Activity.stands top (group.inside diagram.activities), place ∈ places) ∧
      group.ownPlaces places =
        group.ownPlaces (Activity.stands top (group.inside diagram.activities)) := by
  intro diagram places
  obtain ⟨before, after, split, outside⟩ := group.exists_range (ofLines_numbered lines)
  have inside : before ++ after ⊆ diagram.activities := by
    rw [split]
    intro step elsewhere
    rcases List.mem_append.mp elsewhere with early | late
    · exact List.mem_append_left _ (List.mem_append_left _ early)
    · exact List.mem_append_right _ late
  have foreign (top : Int) (steps : List Activity) (subset : steps ⊆ before ++ after) :
      (Activity.stands top steps).filter (fun place => group.owns place.1) = [] := by
    refine Partition.ownPlaces_eq_nil_iff.mpr (List.forall_mem_map.mpr ?_)
    rintro ⟨step, _⟩ standing
    have elsewhere := subset (Activity.mem_of_stands standing)
    refine Bool.eq_false_iff.mpr fun own => ?_
    have covers := covers_of_owns member (inside elsewhere) own
    exact Bool.false_ne_true ((outside step elsewhere).symm.trans covers)
  let range := diagram.activities.filter fun step => group.covers step.id
  have whole : places = Activity.stands diagram.firstTop before ++
      Activity.stands (diagram.firstTop + Activity.room before)
        (group.inside diagram.activities) ++
      Activity.stands (diagram.firstTop + Activity.room (before ++ range)) after := by
    rw [Partition.inside, Activity.stands_filter, ← Activity.stands_append,
      ← Activity.stands_append, ← split]
  refine ⟨diagram.firstTop + Activity.room before, ?_, ?_⟩
  · intro place standing
    rw [whole]
    exact List.mem_append_left _ (List.mem_append_right _ standing)
  · rw [whole, Partition.ownPlaces, List.filter_append, List.filter_append,
      foreign _ before (by simp), foreign _ after (by simp), List.nil_append, List.append_nil]
    rfl

section Reach

variable {diagram : ActivityDiagram} {steps : List Activity} {top : Int}

/-- A rectangle reaches over the nodes of steps exactly if it does so where they stand. -/
theorem spansNodes_iff (distinct : (diagram.activities.map Activity.id).Nodup)
    (drawn : ∀ step ∈ steps, step.isDrawn = true)
    (standing : ∀ place ∈ Activity.stands top steps,
      place ∈ Activity.stands diagram.firstTop diagram.activities) {x y width height : Int} :
    (∀ step ∈ steps, ∀ node ∈ diagram.nodeOf? step,
        (Box.ofInt x y width height).SpansHeight node) ↔
      ∀ place ∈ Activity.stands top steps,
        y ≤ place.2 ∧ place.2 + place.1.kind.nodeHeight ≤ y + height := by
  nth_rewrite 1 [← Activity.map_fst_stands_of_drawn drawn top]
  rw [List.forall_mem_map]
  refine forall₂_congr ?_
  rintro ⟨step, own⟩ member
  obtain ⟨left, nodeWidth, others, shapes, _⟩ := shapes_of_stands distinct (standing _ member)
  rw [nodeOf?, shapes, List.head?_cons]
  simp only [Option.mem_some_iff, forall_eq', Box.spansHeight_ofInt_iff]
  exact Box.liesBetween_ofInt_iff

/-- The frame around a partition's own steps reaches over the nodes of other steps, too, exactly if
its own steps come first and the partition ends in all of them. -/
theorem frame_spans_iff (distinct : (diagram.activities.map Activity.id).Nodup)
    (drawn : ∀ step ∈ steps, step.isDrawn = true)
    (standing : ∀ place ∈ Activity.stands top steps,
      place ∈ Activity.stands diagram.firstTop diagram.activities) (group : Partition)
    {first last : Activity × Int}
    (head : (group.ownPlaces (Activity.stands top steps)).head? = some first)
    (final : (group.ownPlaces (Activity.stands top steps)).getLast? = some last) :
    (∀ step ∈ steps, ∀ node ∈ diagram.nodeOf? step,
        (Box.ofInt 110 (first.2 - 20) 280 (last.2 - (first.2 - 20) + 70)).SpansHeight node) ↔
      (∃ step ∈ steps.head?, group.owns step = true) ∧ group.EndsIn steps := by
  have bottom : first.2 - 20 + (last.2 - (first.2 - 20) + 70) = last.2 + 70 := by omega
  have heads : steps.head? = (Activity.stands top steps).head?.map Prod.fst := by
    rw [← List.head?_map, Activity.map_fst_stands_of_drawn drawn]
  have begins := group.begins_iff (Activity.stands_pairwise top steps) head
  rw [spansNodes_iff distinct drawn standing, bottom, forall₂_and, begins,
    group.ends_iff drawn final, heads]
  simp

end Reach

/-- Whatever lines are read: the frame of a partition is there exactly if one of the steps that are
drawn in its range is its own, rather than that of a partition within it. It reaches over the nodes
of all these steps exactly if the first of them is its own and the partition ends in them. -/
theorem partition_frames_iff (stem : String) (lines : List String) :
    let diagram := ofLines lines
    (Diagram.activity diagram).frames stem =
        diagram.laneFrames ++ diagram.partitions.filterMap diagram.partitionFrame? ++
          diagram.activities.flatMap diagram.shapes ∧
      ∀ group ∈ diagram.partitions,
        let inside := group.inside diagram.activities
        (∀ step ∈ inside, (diagram.nodeOf? step).isSome = true) ∧
          (diagram.partitionFrame? group).isSome = inside.any group.owns ∧
          ((∃ frame ∈ diagram.partitionFrame? group, ∀ step ∈ inside,
              ∀ node ∈ diagram.nodeOf? step, frame.SpansHeight node) ↔
            (∃ first ∈ inside.head?, group.owns first = true) ∧ group.EndsIn inside) := by
  intro diagram
  refine ⟨diagram.frames_activity stem, ?_⟩
  intro group member inside
  have distinct := ofLines_distinct lines
  have drawn : ∀ step ∈ inside, step.isDrawn = true := fun _ within => (List.mem_filter.mp within).2
  obtain ⟨top, standing, own⟩ := exists_top member
  have frame := partitionFrame?_eq distinct group
  have all := Activity.map_fst_stands_of_drawn drawn top
  refine ⟨?_, ?_⟩
  · intro step within
    have stepMember := (List.mem_filter.mp (List.mem_filter.mp within).1).1
    rw [nodeOf?_isSome distinct stepMember, drawn step within]
  simp only [own] at frame
  -- without an own step there is no frame, and the steps in the range do not begin with one
  cases places : group.ownPlaces (Activity.stands top inside) with
  | nil =>
    have foreign := Partition.ownPlaces_eq_nil_iff.mp places
    rw [all] at foreign
    rw [frame, places, List.any_eq_false.mpr fun step within => by simp [foreign step within]]
    refine ⟨rfl, iff_of_false (by simp) ?_⟩
    rintro ⟨⟨first, isFirst, own_first⟩, _⟩
    simp [foreign first (List.mem_of_head? isFirst)] at own_first
  | cons first others =>
    have isOwn : first ∈ group.ownPlaces (Activity.stands top inside) :=
      places ▸ List.mem_cons_self
    rw [places, List.head?_cons, List.getLast?_cons] at frame
    have spans := frame_spans_iff distinct drawn standing group
      (by rw [places, List.head?_cons]) (by rw [places, List.getLast?_cons])
    obtain ⟨firstMember, own_first⟩ := List.mem_filter.mp isOwn
    have within : first.1 ∈ inside := all ▸ List.mem_map_of_mem firstMember
    rw [frame, List.any_eq_true.mpr ⟨first.1, within, own_first⟩]
    refine ⟨rfl, Iff.trans ?_ spans⟩
    simp only [Option.bind_some, Option.map_some, Option.mem_some_iff, exists_eq_left']
    exact Iff.rfl

/-- A partition that only holds another one has no frame, though a step is drawn in its range. One
that ends with another one has a frame that ends above the last node in its range. -/
theorem nested_steps_left_out :
    let outer := ofLines ["partition A \x7b", "partition B \x7b", ":x;", "\x7d", "\x7d"]
    let longer := ofLines ["partition A \x7b", ":a;", "partition B \x7b", ":b;", ":c;", "\x7d",
      "\x7d"]
    (∃ group ∈ outer.partitions, group.label = "A" ∧ group.endIndex = some 1 ∧
        (∃ step ∈ group.inside outer.activities, step.label = "x") ∧
        outer.partitionFrame? group = none) ∧
      ∃ group ∈ longer.partitions, group.label = "A" ∧ group.endIndex = some 3 ∧
        longer.partitionFrame? group = some (.ofInt 110 20 280 90) ∧
        ∃ step ∈ group.inside longer.activities, step.label = "c" ∧
          longer.nodeOf? step = some (.ofInt 150 180 140 40) ∧
          ¬(Box.ofInt 110 20 280 90).SpansHeight (.ofInt 150 180 140 40) := by
  intro outer longer
  have low : ¬(Box.ofInt 110 20 280 90).SpansHeight (.ofInt 150 180 140 40) := by
    rw [Box.spansHeight_ofInt_iff, Box.liesBetween_ofInt_iff]
    decide
  simp only [low, not_false_eq_true, and_true]
  decide +kernel

end ActivityDiagram

end Drafting
