import Drafting.Proofs.ActivityDiagram.Nesting
import Drafting.Proofs.Diagram.Overlaps
import Drafting.Proofs.Position
import Mathlib.Algebra.Order.BigOperators.Group.List

/-!
# Places of steps

Steps that are drawn stand below each other, each as far below the one before it as that one
requires. A ring and a note reach above and below their node, but every kind leaves enough room: a
step takes up a band that begins ten above its node and is as high as the distance to the next
step, and the bands of two steps have at most an edge in common.

Places are looked up by number, so they are known only where steps have distinct numbers. The main
statement says that no step reaches into another one, for every activity with distinct numbers.
-/

namespace Drafting

namespace ActivityKind

/-- The height of the node of a step. -/
def nodeHeight : ActivityKind → Int
  | .start | .stop | .merge => 30
  | .action => 40
  | .decision => 60
  | .fork => 10
  | .elseifMarker | .elseMarker => 0

/-- The next step begins at least ten below the node. -/
theorem nodeHeight_le (kind : ActivityKind) : kind.nodeHeight ≤ Activity.drop kind - 10 := by
  cases kind <;> decide

/-- The node of a step is at most sixty high. -/
theorem nodeHeight_bound (kind : ActivityKind) :
    0 ≤ kind.nodeHeight ∧ kind.nodeHeight ≤ 60 := by
  cases kind <;> decide

/-- No step takes less room than a merge or a fork. -/
theorem drop_bound (kind : ActivityKind) : 40 ≤ Activity.drop kind := by
  cases kind <;> decide

end ActivityKind

namespace Activity

/-- A step is drawn unless it is a marker. -/
def isDrawn (activity : Activity) : Bool := !activity.kind.isMarker

/-- The steps that are drawn with the upper edges of their nodes, from a given one downwards. -/
def stands (top : Int) : List Activity → List (Activity × Int)
  | [] => []
  | activity :: others =>
    if activity.isDrawn then (activity, top) :: stands (top + drop activity.kind) others
    else stands top others

/-- The room that steps take up. -/
def room (activities : List Activity) : Int :=
  ((activities.filter isDrawn).map fun activity => drop activity.kind).sum

/-- A step that is drawn takes up room before the others. -/
theorem room_cons (activity : Activity) (others : List Activity) :
    room (activity :: others) =
      (if activity.isDrawn then drop activity.kind else 0) + room others := by
  rw [room, List.filter_cons]
  split <;> simp [room]

/-- The room of steps and of those behind them adds up. -/
theorem room_append (before after : List Activity) :
    room (before ++ after) = room before + room after := by
  rw [room, List.filter_append, List.map_append, List.sum_append, room, room]

/-- Markers do not change where the others stand. -/
theorem stands_filter (top : Int) (activities : List Activity) :
    stands top (activities.filter isDrawn) = stands top activities := by
  induction activities generalizing top with
  | nil => rfl
  | cons activity others inductionHypothesis =>
    rw [List.filter_cons, stands]
    split
    · next drawn => rw [stands, if_pos drawn, inductionHypothesis]
    · exact inductionHypothesis top

/-- Exactly the steps that are drawn stand somewhere. -/
theorem map_fst_stands (top : Int) (activities : List Activity) :
    (stands top activities).map Prod.fst = activities.filter isDrawn := by
  induction activities generalizing top with
  | nil => rfl
  | cons activity others inductionHypothesis =>
    rw [stands, List.filter_cons]
    split
    · rw [List.map_cons, inductionHypothesis]
    · exact inductionHypothesis top

/-- Where there are no markers, all steps stand somewhere. -/
theorem map_fst_stands_of_drawn {activities : List Activity}
    (drawn : ∀ activity ∈ activities, activity.isDrawn = true) (top : Int) :
    (stands top activities).map Prod.fst = activities := by
  rw [map_fst_stands, List.filter_eq_self.mpr drawn]

/-- The upper edges by number are those at which steps stand. -/
theorem tops_eq (top : Int) (activities : List Activity) :
    tops top activities =
      (stands top activities).map fun (activity, own) => (activity.id, own) := by
  induction activities generalizing top with
  | nil => rfl
  | cons activity others inductionHypothesis =>
    rw [tops, stands, isDrawn]
    cases activity.kind.isMarker with
    | true => exact inductionHypothesis top
    | false => exact congrArg (List.cons _) (inductionHypothesis _)

/-- Steps behind others stand below the room that those take up. -/
theorem stands_append (top : Int) (before after : List Activity) :
    stands top (before ++ after) = stands top before ++ stands (top + room before) after := by
  induction before generalizing top with
  | nil => simp [stands, room]
  | cons activity others inductionHypothesis =>
    rw [List.cons_append, stands, stands, room_cons]
    split
    · rw [inductionHypothesis, List.cons_append, Int.add_assoc]
    · rw [inductionHypothesis, Int.zero_add]

/-- A step that is drawn stands below the room that those before it take up. -/
theorem exists_split_of_stands {top own : Int} {activities : List Activity} {activity : Activity}
    (member : (activity, own) ∈ stands top activities) :
    ∃ before after, activities = before ++ activity :: after ∧ activity.isDrawn = true ∧
      own = top + room before := by
  induction activities generalizing top with
  | nil => contradiction
  | cons first others inductionHypothesis =>
    rw [stands] at member
    split at member
    · next drawn =>
      rcases List.mem_cons.mp member with same | later
      · obtain ⟨rfl, rfl⟩ := Prod.mk.inj same
        exact ⟨[], others, rfl, drawn, by simp [room]⟩
      · obtain ⟨before, after, rfl, own_drawn, rfl⟩ := inductionHypothesis later
        exact ⟨first :: before, after, rfl, own_drawn, by
          rw [room_cons, if_pos drawn, Int.add_assoc]⟩
    · next marker =>
      obtain ⟨before, after, rfl, own_drawn, rfl⟩ := inductionHypothesis member
      exact ⟨first :: before, after, rfl, own_drawn, by
        rw [room_cons, if_neg marker, Int.zero_add]⟩

/-- What stands somewhere is one of the steps. -/
theorem mem_of_stands {top own : Int} {activities : List Activity} {activity : Activity}
    (member : (activity, own) ∈ stands top activities) : activity ∈ activities := by
  obtain ⟨before, after, rfl, _, _⟩ := exists_split_of_stands member
  exact List.mem_append_right before List.mem_cons_self

/-- Steps take up no negative room. -/
theorem room_nonneg (activities : List Activity) : 0 ≤ room activities := by
  refine List.sum_nonneg ?_
  intro drop member
  obtain ⟨activity, _, rfl⟩ := List.mem_map.mp member
  exact (by decide : (0 : Int) ≤ 40).trans activity.kind.drop_bound

/-- Each step stands below all that an earlier one requires. -/
theorem stands_pairwise (top : Int) (activities : List Activity) :
    (stands top activities).Pairwise fun upper lower =>
      upper.2 + drop upper.1.kind ≤ lower.2 := by
  induction activities generalizing top with
  | nil => exact .nil
  | cons activity others inductionHypothesis =>
    rw [stands]
    split
    · refine List.pairwise_cons.mpr ⟨?_, inductionHypothesis _⟩
      rintro ⟨later, own⟩ member
      obtain ⟨before, _, _, _, rfl⟩ := exists_split_of_stands member
      exact Int.le_add_of_nonneg_right (room_nonneg before)
    · exact inductionHypothesis top

/-- Where steps have distinct numbers, the upper edge of a step is found under its number. -/
theorem topOf?_of_stands {top own : Int} {activities : List Activity} {activity : Activity}
    (distinct : (activities.map Activity.id).Nodup)
    (member : (activity, own) ∈ stands top activities) :
    topOf? (tops top activities) activity.id = some own := by
  have keys : ((tops top activities).map Prod.fst).Nodup := by
    have ids : (tops top activities).map Prod.fst =
        (activities.filter isDrawn).map Activity.id := by
      rw [tops_eq, ← map_fst_stands top, List.map_map, List.map_map]
      rfl
    rw [ids]
    exact (List.filter_sublist.map Activity.id).nodup distinct
  have placed : (activity.id, own) ∈ tops top activities :=
    tops_eq top activities ▸ List.mem_map_of_mem (f := fun (step, own) => (step.id, own)) member
  obtain ⟨before, after, split⟩ := List.append_of_mem placed
  rw [topOf?, List.lookup_eq_some_iff]
  refine ⟨after.reverse, before.reverse, by simp [split], ?_⟩
  rintro ⟨other, place⟩ isAfter
  rw [split, List.map_append, List.map_cons, List.nodup_append, List.nodup_cons] at keys
  have different : activity.id ≠ other := by
    rintro rfl
    exact keys.2.1.1 (List.mem_map.mpr ⟨_, List.mem_reverse.mp isAfter, rfl⟩)
  exact bne_iff_ne.mpr different

/-- Where steps have distinct numbers, nothing is found under the number of a marker. -/
theorem topOf?_of_marker {top : Int} {activities : List Activity} {activity : Activity}
    (distinct : (activities.map Activity.id).Nodup) (member : activity ∈ activities)
    (marker : activity.isDrawn = false) : topOf? (tops top activities) activity.id = none := by
  rw [topOf?, List.lookup_eq_none_iff]
  rintro ⟨number, own⟩ placed
  rw [List.mem_reverse, tops_eq] at placed
  obtain ⟨⟨other, _⟩, stands, same⟩ := List.mem_map.mp placed
  obtain ⟨_, _, _, drawn, _⟩ := exists_split_of_stands stands
  obtain ⟨rfl, rfl⟩ := Prod.mk.inj same
  refine bne_iff_ne.mpr fun equal => ?_
  obtain rfl := List.inj_on_of_nodup_map distinct member (mem_of_stands stands) equal
  rw [marker] at drawn
  contradiction

/-- The note beside an action stays within the band of the action. -/
theorem frames_noteFigures (activity : Activity) (left top : Int) :
    ∀ shape ∈ (activity.noteFigures left top).filterMap Figure.frame?,
      shape.LiesBetween (top - 10) (top + 60) := by
  intro shape member
  rw [noteFigures] at member
  split at member
  · contradiction
  · obtain rfl := List.mem_singleton.mp member
    exact Box.liesBetween_ofInt_iff.mpr (by omega)

/-- A step is drawn as its node, which begins at the given height, and perhaps another shape. All
of them stay within the band of the step. -/
theorem frames_figures {activity : Activity} (drawn : activity.isDrawn = true) (left top : Int) :
    ∃ x width others, (activity.figures left top).filterMap Figure.frame? =
        .ofInt x top width activity.kind.nodeHeight :: others ∧
      ∀ shape ∈ (activity.figures left top).filterMap Figure.frame?,
        shape.LiesBetween (top - 10) (top + drop activity.kind - 10) := by
  have node (x width : Int) : (Box.ofInt x top width activity.kind.nodeHeight).LiesBetween
      (top - 10) (top + drop activity.kind - 10) := by
    have := activity.kind.nodeHeight_le
    exact Box.liesBetween_ofInt_iff.mpr (by omega)
  obtain ⟨id, kind, label, swimlane, partition, related, branch, condition, note⟩ := activity
  cases kind with
  | stop =>
    refine ⟨_, _, _, rfl, List.forall_mem_cons.mpr ⟨node _ _, ?_⟩⟩
    refine List.forall_mem_singleton.mpr (Box.liesBetween_ofInt_iff.mpr ?_)
    simp only [drop]
    omega
  | action =>
    refine ⟨_, _, _, rfl, List.forall_mem_cons.mpr ⟨node _ _, ?_⟩⟩
    intro shape member
    exact Int.add_sub_assoc top 70 10 ▸ frames_noteFigures _ _ top shape member
  | start => exact ⟨_, _, _, rfl, List.forall_mem_singleton.mpr (node _ _)⟩
  | decision => exact ⟨_, _, _, rfl, List.forall_mem_singleton.mpr (node _ _)⟩
  | merge => exact ⟨_, _, _, rfl, List.forall_mem_singleton.mpr (node _ _)⟩
  | fork => exact ⟨_, _, _, rfl, List.forall_mem_singleton.mpr (node _ _)⟩
  | elseifMarker => contradiction
  | elseMarker => contradiction

end Activity

namespace ActivityDiagram

/-- The rectangles of a step: that of its node, and that of its ring or its note. -/
def shapes (diagram : ActivityDiagram) (activity : Activity) : List Box :=
  (diagram.stepFigures activity).filterMap Figure.frame?

/-- The rectangle of the node of a step, if it is drawn. -/
def nodeOf? (diagram : ActivityDiagram) (activity : Activity) : Option Box :=
  (diagram.shapes activity).head?

/-- The rectangles of the lanes. -/
def laneFrames (diagram : ActivityDiagram) : List Box := diagram.laneFigures.filterMap Figure.frame?

/-- The rectangle around a partition, if there is one. -/
def partitionFrame? (diagram : ActivityDiagram) (group : Partition) : Option Box :=
  (group.figure? diagram.activities diagram.tops).bind Figure.frame?

/-- The frames of an activity are those of its lanes, of its partitions and of its steps. -/
theorem frames_activity (diagram : ActivityDiagram) (stem : String) :
    (Diagram.activity diagram).frames stem =
      diagram.laneFrames ++ diagram.partitions.filterMap diagram.partitionFrame? ++
        diagram.activities.flatMap diagram.shapes := by
  have links : (diagram.edges.map fun edge => Figure.link edge.label edgeStyle
      (.number edge.source) (.number edge.target)).filterMap Figure.frame? = [] := by
    rw [List.filterMap_map]
    exact List.filterMap_eq_nil_iff.mpr fun _ _ => rfl
  refine (frames_cellsOf stem _).trans ?_
  rw [Diagram.figures, figures, List.filterMap_append, links, List.append_nil,
    List.filterMap_append, List.filterMap_append, List.filterMap_filterMap,
    List.filterMap_flatMap]
  rfl

/-- A marker has no shapes. -/
theorem shapes_of_marker (diagram : ActivityDiagram) {activity : Activity}
    (marker : activity.isDrawn = false) : diagram.shapes activity = [] := by
  rw [shapes, stepFigures, if_pos (by simpa [Activity.isDrawn] using marker)]
  rfl

variable {diagram : ActivityDiagram}

/-- Where steps have distinct numbers, the shapes of a step are its node at the place where it
stands, and others within its band. -/
theorem shapes_of_stands (distinct : (diagram.activities.map Activity.id).Nodup)
    {activity : Activity} {top : Int}
    (member : (activity, top) ∈ Activity.stands diagram.firstTop diagram.activities) :
    ∃ x width others,
      diagram.shapes activity = .ofInt x top width activity.kind.nodeHeight :: others ∧
      ∀ shape ∈ diagram.shapes activity,
        shape.LiesBetween (top - 10) (top + Activity.drop activity.kind - 10) := by
  obtain ⟨_, _, _, drawn, _⟩ := Activity.exists_split_of_stands member
  have found := Activity.topOf?_of_stands distinct member
  have figures : diagram.stepFigures activity =
      activity.figures (diagram.columnOf activity) top := by
    rw [stepFigures, tops, found, if_neg (by simpa [Activity.isDrawn] using drawn)]
  rw [shapes, figures]
  exact Activity.frames_figures drawn _ top

/-- The steps that were read are numbered by their positions. -/
theorem ofLines_numbered (lines : List String) :
    NumberedBy Activity.id (ofLines lines).activities :=
  (ofLines_ordered lines).numbers

/-- So they have distinct numbers. -/
theorem ofLines_distinct (lines : List String) :
    ((ofLines lines).activities.map Activity.id).Nodup :=
  List.pairwise_map.mpr ((ofLines_numbered lines).increasing.imp Int.ne_of_lt)

/-- A step that is drawn stands somewhere. -/
theorem exists_stands {activity : Activity} (member : activity ∈ diagram.activities)
    (drawn : activity.isDrawn = true) :
    ∃ top, (activity, top) ∈ Activity.stands diagram.firstTop diagram.activities := by
  have inside : activity ∈ diagram.activities.filter Activity.isDrawn :=
    List.mem_filter.mpr ⟨member, drawn⟩
  rw [← Activity.map_fst_stands diagram.firstTop] at inside
  obtain ⟨⟨_, top⟩, stands, rfl⟩ := List.mem_map.mp inside
  exact ⟨top, stands⟩

/-- Exactly the steps that are drawn have a node. -/
theorem nodeOf?_isSome (distinct : (diagram.activities.map Activity.id).Nodup)
    {activity : Activity} (member : activity ∈ diagram.activities) :
    (diagram.nodeOf? activity).isSome = activity.isDrawn := by
  rw [nodeOf?]
  cases drawn : activity.isDrawn with
  | false => rw [diagram.shapes_of_marker drawn]; rfl
  | true =>
    obtain ⟨top, stands⟩ := exists_stands member drawn
    obtain ⟨x, width, others, shapes, _⟩ := shapes_of_stands distinct stands
    rw [shapes]
    rfl

/-- The shapes of an earlier step end where those of a later one begin, or above, and its node
ends above the node of the later one. -/
def StandsAbove (diagram : ActivityDiagram) (earlier later : Activity) : Prop :=
  (∀ upper ∈ diagram.shapes earlier, ∀ lower ∈ diagram.shapes later,
    upper.y + upper.height ≤ lower.y) ∧
  ∀ upper ∈ diagram.nodeOf? earlier, ∀ lower ∈ diagram.nodeOf? later,
    upper.y + upper.height < lower.y

/-- A step stands above one that is placed below all that the first one requires. -/
theorem standsAbove_of_stands (distinct : (diagram.activities.map Activity.id).Nodup)
    {earlier later : Activity} {top bottom : Int}
    (first : (earlier, top) ∈ Activity.stands diagram.firstTop diagram.activities)
    (second : (later, bottom) ∈ Activity.stands diagram.firstTop diagram.activities)
    (order : top + Activity.drop earlier.kind ≤ bottom) : diagram.StandsAbove earlier later := by
  obtain ⟨x, width, others, shapes, upperBand⟩ := shapes_of_stands distinct first
  obtain ⟨x', width', others', shapes', lowerBand⟩ := shapes_of_stands distinct second
  constructor
  · intro upper upperMember lower lowerMember
    calc upper.y + upper.height ≤ ((top + Activity.drop earlier.kind - 10 : Int) : Rat) :=
          (upperBand upper upperMember).2
      _ ≤ ((bottom - 10 : Int) : Rat) := Rat.intCast_le_intCast.mpr (by omega)
      _ ≤ lower.y := (lowerBand lower lowerMember).1
  · rw [nodeOf?, nodeOf?, shapes, shapes']
    rintro upper upperNode lower lowerNode
    obtain rfl := Option.mem_some_iff.mp upperNode
    obtain rfl := Option.mem_some_iff.mp lowerNode
    have low := earlier.kind.nodeHeight_le
    have below : top + earlier.kind.nodeHeight < bottom := by omega
    rw [← Rat.intCast_lt_intCast, Rat.intCast_add] at below
    exact below

/-- Every step stands above the later ones. -/
theorem pairwise_standsAbove (distinct : (diagram.activities.map Activity.id).Nodup) :
    diagram.activities.Pairwise diagram.StandsAbove := by
  have ordered : (Activity.stands diagram.firstTop diagram.activities).Pairwise fun upper lower =>
      diagram.StandsAbove upper.1 lower.1 :=
    (Activity.stands_pairwise _ _).imp_of_mem fun first second order =>
      standsAbove_of_stands distinct first second order
  have drawn := List.pairwise_map.mpr ordered
  rw [Activity.map_fst_stands, List.pairwise_filter] at drawn
  refine drawn.imp ?_
  intro earlier later above
  -- a marker has no shapes, so nothing is asked of it
  cases first : earlier.isDrawn with
  | false => simp [StandsAbove, nodeOf?, diagram.shapes_of_marker first]
  | true =>
    cases second : later.isDrawn with
    | false => simp [StandsAbove, nodeOf?, diagram.shapes_of_marker second]
    | true => exact above first second

/-- Whatever an activity holds, as long as its steps have distinct numbers: its frames are those of
its lanes, of its partitions and of its steps, and exactly the steps that are no markers have a
node. The shapes of two steps have at most points of their edges in common, and the node of a
later step lies strictly below that of an earlier one. -/
theorem steps_apart (diagram : ActivityDiagram)
    (distinct : (diagram.activities.map Activity.id).Nodup) (stem : String) :
    (Diagram.activity diagram).frames stem =
        diagram.laneFrames ++ diagram.partitions.filterMap diagram.partitionFrame? ++
          diagram.activities.flatMap diagram.shapes ∧
      (∀ activity ∈ diagram.activities,
        (diagram.nodeOf? activity).isSome = !activity.kind.isMarker) ∧
      diagram.activities.Pairwise fun earlier later =>
        (∀ upper ∈ diagram.shapes earlier, ∀ lower ∈ diagram.shapes later,
          upper.InteriorsApart lower) ∧
        ∀ upper ∈ diagram.nodeOf? earlier, ∀ lower ∈ diagram.nodeOf? later,
          upper.y + upper.height < lower.y := by
  refine ⟨diagram.frames_activity stem, fun _ member => nodeOf?_isSome distinct member, ?_⟩
  refine (pairwise_standsAbove distinct).imp ?_
  rintro earlier later ⟨shapes, nodes⟩
  exact ⟨fun upper upperMember lower lowerMember =>
    Box.interiorsApart_of_below (shapes upper upperMember lower lowerMember), nodes⟩

/-- The note of an action begins exactly where a merge before it ends. -/
theorem steps_apart_touching :
    let merge : Activity := { id := 7, kind := .merge }
    let action : Activity := { id := 3, kind := .action, label := "Wait", note := some "briefly" }
    let diagram : ActivityDiagram := { activities := [merge, action] }
    (diagram.activities.map Activity.id).Nodup ∧
      diagram.shapes merge = [.ofInt 205 40 30 30] ∧
      diagram.shapes action = [.ofInt 150 80 140 40, .ofInt 310 70 140 60] ∧
      (Box.ofInt 205 40 30 30).InteriorsApart (.ofInt 310 70 140 60) := by
  intro merge action diagram
  have first : diagram.shapes merge = [.ofInt 205 40 30 30] := by decide
  have second : diagram.shapes action = [.ofInt 150 80 140 40, .ofInt 310 70 140 60] := by decide
  have distinct : (diagram.activities.map Activity.id).Nodup := by decide
  refine ⟨distinct, first, second, ?_⟩
  have pairs := (steps_apart diagram distinct "p").2.2
  have apart := (List.pairwise_cons.mp pairs).1 action List.mem_cons_self
  exact apart.1 _ (by simp [first]) _ (by simp [second])

end ActivityDiagram

end Drafting
