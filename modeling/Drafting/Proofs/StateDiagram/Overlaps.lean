import Drafting.Proofs.Diagram.Overlaps
import Drafting.StateDiagram.Reader

/-!
# Overlapping states

States are placed on a grid whose columns are all equally far apart. A state is as wide as its
label requires, and its note begins behind it, so both may reach into the next column.

The main statement tells for every state diagram whether its states are clear of each other and of
the notes of other states: only a state with another one to its right in the same row can be in
the way, and it is so exactly if it has a note or a label of twenty characters or more.
-/

namespace Drafting

namespace State

/-- The text beside a state; it is empty where the state has no note. -/
def noteText (state : State) : String := state.note.getD ""

/-- The rectangle of a state whose corner is given. -/
def frame (state : State) (x y : Int) : Box := .ofInt x y state.width state.height

/-- The rectangle of its note, if it has one. -/
def noteFrame? (state : State) (x y : Int) : Option Box :=
  if state.noteText.isEmpty then none else some (.ofInt (x + state.width + 10) y 120 60)

/-- How far a state and its note reach to the right. -/
def reach (state : State) : Int :=
  if state.noteText.isEmpty then state.width else state.width + 130

/-- A state is drawn as its rectangle and, behind it, that of its note. -/
theorem frames_figures (state : State) (x y : Int) :
    (state.figures x y).filterMap Figure.frame? =
      state.frame x y :: (state.noteFrame? x y).toList := by
  rw [figures, noteFrame?, noteText]
  split <;> rfl

/-- A state is at least as wide as a dot. -/
theorem width_bound (state : State) : 30 ≤ state.width := by
  rw [width, textWidth]
  split <;> omega

/-- A state is lower than a row of the grid. -/
theorem height_bounds (state : State) : 0 ≤ state.height ∧ state.height ≤ 50 := by
  rw [height]
  split <;> decide

/-- Only an ordinary state can reach the next column: if it has a note, or a label of twenty
characters or more. -/
theorem reach_lt_iff (state : State) :
    state.reach < 180 ↔
      (state.kind = .state → state.label.length < 20 ∧ state.noteText.isEmpty = true) := by
  rw [reach, width, textWidth]
  cases state.kind with
  | state => cases state.noteText.isEmpty <;> simp <;> omega
  | start => cases state.noteText.isEmpty <;> simp
  | stop => cases state.noteText.isEmpty <;> simp

end State

namespace StateDiagram

/-- The rectangle of a state and that of its note, by the position of the state. -/
def placeOf (index : Nat) (state : State) : Box × Option Box :=
  let x : Int := 100 + ↑(index % 4) * 180
  let y : Int := 50 + ↑(index / 4) * 100
  (state.frame x y, state.noteFrame? x y)

/-- The rectangles of the states, each with that of its note. -/
def places (diagram : StateDiagram) : List (Box × Option Box) := diagram.states.mapIdx placeOf

/-- Two states are apart, and each of them is apart from the note of the other one. -/
def Clear (first second : Box × Option Box) : Prop :=
  first.1.Apart second.1 ∧ (∀ note ∈ first.2, note.Apart second.1) ∧
    ∀ note ∈ second.2, first.1.Apart note

/-- States stand on the grid where their positions tell. -/
theorem spread_states (states : List State) :
    (grid.spread (fun _ => (100 : Int)) (grid.start 50) states).map
        (fun (state, cursor) =>
          (state.frame cursor.x cursor.y, state.noteFrame? cursor.x cursor.y)) =
      states.mapIdx placeOf := by
  rw [grid.spread_start]
  refine List.ext_getElem (by simp) ?_
  intro index inside _
  have reached : index / grid.columns * grid.columns ≤ states.length := by
    rw [List.length_map, List.length_mapIdx] at inside
    exact (Nat.div_mul_le_self index grid.columns).trans inside.le
  have top := grid.rowTop_constant 50 (by decide) 100 reached
  simp only [List.getElem_map, List.getElem_mapIdx, Grid.cursorAt, top]
  rfl

/-- The frames of a state diagram are the rectangles of its states and notes. -/
theorem frames_states (diagram : StateDiagram) (stem : String) :
    (Diagram.state diagram).frames stem =
      diagram.places.flatMap fun place => place.1 :: place.2.toList := by
  have links : (diagram.transitions.map transitionFigure).filterMap Figure.frame? = [] := by
    refine List.filterMap_eq_nil_iff.mpr ?_
    intro link member
    obtain ⟨transition, _, rfl⟩ := List.mem_map.mp member
    rfl
  refine (frames_cellsOf stem _).trans ?_
  rw [Diagram.figures, figures, List.filterMap_append, links, List.append_nil, places,
    ← spread_states, List.flatMap_map, List.filterMap_flatMap]
  simp only [State.frames_figures]

/-- States in different rows are clear of each other, and in one row they are so exactly if the
first one does not reach the second. -/
theorem clear_iff {first second : Nat} (order : first < second) (left right : State) :
    Clear (placeOf first left) (placeOf second right) ↔
      (first / 4 = second / 4 → left.reach < ↑(second - first) * 180) := by
  have leftWidth := left.width_bound
  have rightWidth := right.width_bound
  have leftHeight := left.height_bounds
  have rightHeight := right.height_bounds
  rw [imp_iff_not_or]
  -- in one row the heights meet, so only the columns count; a note needs its own case
  simp only [Clear, placeOf, State.frame, State.noteFrame?, State.reach]
  cases left.noteText.isEmpty <;> cases right.noteText.isEmpty <;>
    simp (disch := omega) only [Bool.false_eq_true, reduceIte, reduceCtorEq, Option.mem_def,
      Option.some.injEq, forall_eq', IsEmpty.forall_iff, implies_true, and_true,
      true_and, Box.apart_ofInt_iff] <;> omega

/-- States are clear of each other exactly if none with another one to its right in the same row
reaches the next column. -/
theorem pairwise_clear_iff (states : List State) :
    (states.mapIdx placeOf).Pairwise Clear ↔
      ∀ index state, states[index]? = some state → (index + 1) % 4 ≠ 0 →
        index + 1 < states.length → state.reach < 180 := by
  simp only [List.pairwise_iff_getElem, List.length_mapIdx, List.getElem_mapIdx]
  constructor
  · intro clear index state here sameRow inside
    obtain ⟨present, rfl⟩ := List.getElem?_eq_some_iff.mp here
    have reached := (clear_iff (Nat.lt_succ_self index) _ _).mp
      (clear index (index + 1) present inside (Nat.lt_succ_self index)) (by omega)
    omega
  · intro short first second firstInside secondInside order
    refine (clear_iff order _ _).mpr ?_
    intro sameRow
    have reached := short first _ (List.getElem?_eq_getElem firstInside) (by omega) (by omega)
    omega

/-- The frames of a state diagram are its states in order, each followed by its note if it has one.
States are clear of each other and of the notes of others exactly if none of the ordinary states
that have another one to their right in the same row has a note or twenty characters or more. -/
theorem states_clear_iff (diagram : StateDiagram) (stem : String) :
    (Diagram.state diagram).frames stem =
        diagram.places.flatMap (fun place => place.1 :: place.2.toList) ∧
      (diagram.places.Pairwise Clear ↔
        ∀ index state, diagram.states[index]? = some state → (index + 1) % 4 ≠ 0 →
          index + 1 < diagram.states.length → state.kind = .state →
          state.label.length < 20 ∧ state.noteText.isEmpty = true) := by
  refine ⟨diagram.frames_states stem, (pairwise_clear_iff diagram.states).trans ?_⟩
  simp only [State.reach_lt_iff]

/-- A label of twenty-one characters reaches into the next state, and so does a note. -/
theorem wide_states_meet :
    let labelled := ofLines ["state \x22A label that is wider\x22 as A", "state B"]
    let noted := ofLines ["state A", "state B", "note right of A", "text", "end note"]
    (Diagram.state labelled).frames "p" = [.ofInt 100 50 188 50, .ofInt 280 50 120 50] ∧
      ¬labelled.places.Pairwise Clear ∧
      (Diagram.state noted).frames "p" =
        [.ofInt 100 50 120 50, .ofInt 230 50 120 60, .ofInt 280 50 120 50] ∧
      ¬noted.places.Pairwise Clear := by
  intro labelled noted
  have wide : labelled.states = [⟨0, "A", "A label that is wider", .state, none⟩,
    ⟨1, "B", "B", .state, none⟩] := by decide +kernel
  have beside : noted.states = [⟨0, "A", "A", .state, some "text"⟩,
    ⟨1, "B", "B", .state, none⟩] := by decide +kernel
  refine ⟨?_, ?_, ?_, ?_⟩
  · rw [frames_states, places, wide]
    rfl
  · rw [places, wide, pairwise_clear_iff]
    intro short
    have narrow : (188 : Int) < 180 := short 0 _ rfl (by decide) (by decide)
    contradiction
  · rw [frames_states, places, beside]
    rfl
  · rw [places, beside, pairwise_clear_iff]
    intro short
    have narrow : (250 : Int) < 180 := short 0 _ rfl (by decide) (by decide)
    contradiction

end StateDiagram

end Drafting
