import Drafting.Proofs.ActivityDiagram.Places

/-!
# Heights of lanes

Lanes are as high as the number of steps requires, markers included, where each step counts the
same. A decision takes up more room than that and a merge less, and all others take up no more. So
steps may only leave the lanes where decisions outnumber merges. A decision may well stand before
the merges that make up for it: those merges are counted when the height is chosen.

The main statement says that all shapes of steps lie within the heights of the lanes, in whatever
order statements were read, as long as decisions do not outnumber merges.
-/

namespace Drafting

namespace Activity

/-- Whether a step is a decision. -/
def isDecision (activity : Activity) : Bool := activity.kind == .decision

/-- Whether a step is a merge. -/
def isMerge (activity : Activity) : Bool := activity.kind == .merge

/-- Against seventy for each step, a decision takes up ten more and a merge thirty less. -/
theorem room_add_merges (activities : List Activity) :
    room activities + 30 * activities.countP isMerge ≤
      70 * activities.length + 10 * activities.countP isDecision := by
  induction activities with
  | nil => decide
  | cons activity others inductionHypothesis =>
    rw [room_cons, List.countP_cons, List.countP_cons, List.length_cons, isMerge, isDecision,
      isDrawn]
    cases activity.kind <;> simp [drop, ActivityKind.isMarker] <;> omega

/-- Steps before others take up seventy for each step on the whole, if there are as many merges
as decisions: a merge that is still to come counts with the seventy that are kept for it. -/
theorem room_before {activities before after : List Activity} (split : activities = before ++ after)
    (balanced : activities.countP isDecision ≤ activities.countP isMerge) :
    room before ≤ 70 * activities.length := by
  have counted := room_add_merges before
  have later := after.countP_le_length (p := isMerge)
  rw [split, List.countP_append, List.countP_append] at balanced
  rw [split, List.length_append]
  omega

end Activity

namespace ActivityDiagram

/-- Lanes are placed one by one. -/
theorem map_fst_lefts (left : Int) (lanes : List Swimlane) :
    (Swimlane.lefts left lanes).map Prod.fst = lanes := by
  induction lanes generalizing left with
  | nil => rfl
  | cons lane others inductionHypothesis =>
    rw [Swimlane.lefts, List.map_cons, inductionHypothesis]

/-- The rectangles of lanes stand side by side, all at one height. -/
theorem laneFrames_eq (diagram : ActivityDiagram) :
    diagram.laneFrames = diagram.lanes.map fun (_, left) =>
      .ofInt left 40 Swimlane.width (100 + diagram.activities.length * 70) := by
  rw [laneFrames, laneFigures, List.filterMap_map, ← List.filterMap_eq_map]
  rfl

/-- Every lane has its rectangle. -/
theorem length_laneFrames (diagram : ActivityDiagram) :
    diagram.laneFrames.length = diagram.swimlanes.length := by
  rw [laneFrames_eq, List.length_map, lanes, ← List.length_map (f := Prod.fst), map_fst_lefts]

/-- A shape lies within the height of a lane if there are as many merges as decisions. -/
theorem spansHeight_of_balanced {diagram : ActivityDiagram}
    (distinct : (diagram.activities.map Activity.id).Nodup)
    (balanced : diagram.activities.countP Activity.isDecision ≤
      diagram.activities.countP Activity.isMerge)
    {lane : Box} (laneMember : lane ∈ diagram.laneFrames) {activity : Activity}
    (member : activity ∈ diagram.activities) {shape : Box}
    (shapeMember : shape ∈ diagram.shapes activity) : lane.SpansHeight shape := by
  rw [laneFrames_eq] at laneMember
  obtain ⟨⟨own, left⟩, placed, rfl⟩ := List.mem_map.mp laneMember
  have laned : diagram.firstTop = 90 := by
    rw [firstTop, if_neg]
    intro empty
    rw [lanes, List.isEmpty_iff.mp empty] at placed
    contradiction
  cases drawn : activity.isDrawn with
  | false =>
    rw [diagram.shapes_of_marker drawn] at shapeMember
    contradiction
  | true =>
    obtain ⟨top, stands⟩ := exists_stands member drawn
    obtain ⟨_, _, _, _, band⟩ := shapes_of_stands distinct stands
    obtain ⟨above, below⟩ := band shape shapeMember
    obtain ⟨before, after, split, _, place⟩ := Activity.exists_split_of_stands stands
    -- the band of a step ends with the room of all steps up to this one
    have ahead : diagram.activities = (before ++ [activity]) ++ after := by simp [split]
    have upTo := Activity.room_before ahead balanced
    rw [Activity.room_append, Activity.room_cons, if_pos drawn] at upTo
    have none : Activity.room [] = 0 := rfl
    have nonneg := Activity.room_nonneg before
    refine Box.spansHeight_ofInt_iff.mpr ⟨?_, ?_⟩
    · exact (Rat.intCast_le_intCast.mpr (by omega)).trans above
    · exact below.trans (Rat.intCast_le_intCast.mpr (by omega))

/-- Whatever lines are read, in any order and nesting: as long as decisions do not outnumber merges,
every shape of a step, be it a node, a ring or a note, lies within the height of each lane. -/
theorem shapes_within_lanes (stem : String) (lines : List String)
    (balanced : (ofLines lines).activities.countP Activity.isDecision ≤
      (ofLines lines).activities.countP Activity.isMerge) :
    let diagram := ofLines lines
    (Diagram.activity diagram).frames stem =
        diagram.laneFrames ++ diagram.partitions.filterMap diagram.partitionFrame? ++
          diagram.activities.flatMap diagram.shapes ∧
      diagram.laneFrames.length = diagram.swimlanes.length ∧
      ∀ lane ∈ diagram.laneFrames, ∀ activity ∈ diagram.activities,
        ∀ shape ∈ diagram.shapes activity, lane.SpansHeight shape := by
  intro diagram
  refine ⟨diagram.frames_activity stem, diagram.length_laneFrames, ?_⟩
  intro lane laneMember activity member shape shapeMember
  exact spansHeight_of_balanced (ofLines_distinct lines) balanced laneMember member shapeMember

/-- With two decisions and two merges, the shapes of eight steps stay within the only lane. -/
theorem shapes_within_lanes_shop :
    let diagram := ofLines ["|Shop|", "start", "if (open) then (yes)", ":Buy;", "else (no)",
      "endif", "while (more) is (yes)", "endwhile", "stop"]
    diagram.swimlanes.length = 1 ∧ diagram.activities.length = 8 ∧
      diagram.activities.countP Activity.isDecision ≤
        diagram.activities.countP Activity.isMerge ∧
      ∀ lane ∈ diagram.laneFrames, ∀ activity ∈ diagram.activities,
        ∀ shape ∈ diagram.shapes activity, lane.SpansHeight shape := by
  intro diagram
  have balanced : diagram.activities.countP Activity.isDecision ≤
      diagram.activities.countP Activity.isMerge := by decide +kernel
  have within := (shapes_within_lanes "p" _ balanced).2.2
  exact ⟨by decide +kernel, by decide +kernel, balanced, within⟩

end ActivityDiagram

end Drafting
