import Mathlib.Data.List.Nodup
import Mathlib.Data.List.Perm.Subperm
import Mathlib.Logic.Relation

/-!
# Walking a forest of positions

A forest on the positions below a count is given by the position directly around each, if
there is one. It is walked from the roots, each position before those inside it, with a bound
on the number of levels. Climbing from a position to the one around it may lead in a circle or
beyond the count, and then the walk does not meet the position.

The main statements are that as many levels as positions suffice to meet every position from
which climbing ends, and each of them once, and that the positions are met in their order where
the forest is nested: what is around a position comes before it, and what stands between the two
is inside the first as well.
-/

namespace Drafting.C4.Walk

variable {up : Nat → Option Nat} {count : Nat}

/-- The positions directly inside one, or those that are inside none. -/
def inside (up : Nat → Option Nat) (count : Nat) (around : Option Nat) : List Nat :=
  (List.range count).filter fun position => up position == around

/-- The positions inside one, each before those inside it, down to a number of levels. -/
def below (up : Nat → Option Nat) (count : Nat) : Nat → Option Nat → List Nat
  | 0, _ => []
  | levels + 1, around =>
    (inside up count around).flatMap fun position =>
      position :: below up count levels (some position)

/-- Whatever is directly around a position comes before it. -/
def Earlier (up : Nat → Option Nat) : Prop :=
  ∀ lower upper, up lower = some upper → upper < lower

/-- What stands between a position and one directly inside it is inside it as well, and at
first inside something that does not come before it. -/
def Nested (up : Nat → Option Nat) : Prop :=
  ∀ lower upper, up lower = some upper → ∀ between, upper < between → between < lower →
    ∃ other, up between = some other ∧ upper ≤ other

/-- A position is another one or inside it at some level. -/
def Within (up : Nat → Option Nat) : Nat → Nat → Prop :=
  Relation.ReflTransGen fun upper lower => up lower = some upper

/-- A position is within one that nothing is around. -/
def Rooted (up : Nat → Option Nat) (position : Nat) : Prop :=
  ∃ top, up top = none ∧ Within up top position

/-- The positions directly inside one are below the count. -/
theorem mem_inside {around : Option Nat} {position : Nat} :
    position ∈ inside up count around ↔ position < count ∧ up position = around := by
  simp [inside]

/-- The positions directly inside one are in their order. -/
theorem pairwise_inside (up : Nat → Option Nat) (count : Nat) (around : Option Nat) :
    (inside up count around).Pairwise (· < ·) := List.pairwise_lt_range.filter _

/-- The walk meets what is directly inside a position, and before that what is inside it. -/
theorem mem_below_succ {levels : Nat} {around : Option Nat} {position : Nat} :
    position ∈ below up count (levels + 1) around ↔
      ∃ top, (top < count ∧ up top = around) ∧
        (position = top ∨ position ∈ below up count levels (some top)) := by
  simp [below, mem_inside]

/-- The walk meets only positions below the count. -/
theorem lt_of_mem_below {levels : Nat} {around : Option Nat} {position : Nat}
    (member : position ∈ below up count levels around) : position < count := by
  induction levels generalizing around with
  | zero => simp [below] at member
  | succ levels inductionHypothesis =>
    obtain ⟨top, ⟨inRange, _⟩, rfl | deeper⟩ := mem_below_succ.mp member
    · exact inRange
    · exact inductionHypothesis deeper

/-- What the walk meets is within one of the positions where it begins. -/
theorem within_of_mem_below {levels : Nat} {around : Option Nat} {position : Nat}
    (member : position ∈ below up count levels around) :
    ∃ top, up top = around ∧ Within up top position := by
  induction levels generalizing around with
  | zero => simp [below] at member
  | succ levels inductionHypothesis =>
    obtain ⟨top, ⟨_, begins⟩, rfl | deeper⟩ := mem_below_succ.mp member
    · exact ⟨position, begins, .refl⟩
    · obtain ⟨next, inTop, within⟩ := inductionHypothesis deeper
      exact ⟨top, begins, .head inTop within⟩

/-- A position and what the walk meets below it are within it. -/
theorem within_of_mem {levels top position : Nat}
    (member : position ∈ top :: below up count levels (some top)) : Within up top position := by
  rcases List.mem_cons.mp member with rfl | deeper
  · exact .refl
  · obtain ⟨next, inTop, further⟩ := within_of_mem_below deeper
    exact .head inTop further

/-- A position within another does not come before it. -/
theorem Within.le (earlier : Earlier up) {top position : Nat} (within : Within up top position) :
    top ≤ position := by
  induction within with
  | refl => exact Nat.le_refl top
  | tail _ step inductionHypothesis =>
    exact Nat.le_trans inductionHypothesis (Nat.le_of_lt (earlier _ _ step))

/-- Of two positions that something is within, one is within the other. -/
theorem Within.total {first second position : Nat} (inFirst : Within up first position)
    (inSecond : Within up second position) :
    Within up first second ∨ Within up second first := by
  have unique : Relator.RightUnique (Function.swap fun upper lower => up lower = some upper) := by
    intro lower upper other here there
    exact Option.some.inj (here.symm.trans there)
  have climbs := Relation.ReflTransGen.total_of_right_unique unique
    (Relation.reflTransGen_swap.mpr inFirst) (Relation.reflTransGen_swap.mpr inSecond)
  exact climbs.symm.imp Relation.reflTransGen_swap.mp Relation.reflTransGen_swap.mp

/-- In a nested forest, all that is within a position comes before the later ones that
stand directly inside the same. -/
theorem Within.lt_of_siblings (earlier : Earlier up) (nested : Nested up)
    {first second position : Nat} (order : first < second) (siblings : up first = up second)
    (within : Within up first position) : position < second := by
  induction within with
  | refl => exact order
  | @tail upper lower inFirst step inductionHypothesis =>
    have notBefore : first ≤ upper := Within.le earlier inFirst
    -- whatever is around the siblings comes before all that is within the first
    have above : ∀ other, up second = some other → other < first := fun other around =>
      earlier first other (siblings.trans around)
    rcases Nat.lt_trichotomy lower second with before | rfl | behind
    · exact before
    · have := above upper step
      omega
    · obtain ⟨other, around, notAbove⟩ := nested lower upper step second inductionHypothesis behind
      have := above other around
      omega

/-- A relation holds along the walk if it holds from smaller to larger numbers or, for a
reason of its own, across positions that stand directly inside the same. -/
theorem pairwise_below {related : Nat → Nat → Prop} (earlier : Earlier up)
    (down : ∀ upper lower, upper < lower → related upper lower)
    (across : ∀ first second, first < second → up first = up second →
      ∀ left, Within up first left → ∀ right, Within up second right → related left right)
    (levels : Nat) (around : Option Nat) :
    (below up count levels around).Pairwise related := by
  induction levels generalizing around with
  | zero => simp [below]
  | succ levels inductionHypothesis =>
    rw [below, List.pairwise_flatMap]
    constructor
    · intro top _
      refine List.pairwise_cons.mpr ⟨?_, inductionHypothesis (some top)⟩
      intro position member
      obtain ⟨next, inTop, further⟩ := within_of_mem_below member
      exact down top position (Nat.lt_of_lt_of_le (earlier next top inTop)
        (Within.le earlier further))
    · refine (pairwise_inside up count around).imp_of_mem ?_
      intro first second inFirst inSecond order left atLeft right atRight
      have siblings : up first = up second :=
        (mem_inside.mp inFirst).2.trans (mem_inside.mp inSecond).2.symm
      exact across first second order siblings left (within_of_mem atLeft) right
        (within_of_mem atRight)

/-- A walk through more levels meets what one through fewer does. -/
theorem below_mono {fewer more : Nat} (order : fewer ≤ more) {around : Option Nat}
    {position : Nat} (member : position ∈ below up count fewer around) :
    position ∈ below up count more around := by
  induction fewer generalizing more around with
  | zero => simp [below] at member
  | succ fewer inductionHypothesis =>
    obtain ⟨more, rfl⟩ := Nat.exists_eq_succ_of_ne_zero (Nat.ne_of_gt (Nat.zero_lt_of_lt order))
    obtain ⟨top, begins, rfl | deeper⟩ := mem_below_succ.mp member
    · exact mem_below_succ.mpr ⟨position, begins, .inl rfl⟩
    · have further := inductionHypothesis (Nat.le_of_succ_le_succ order) deeper
      exact mem_below_succ.mpr ⟨top, begins, .inr further⟩

/-- A walk through one more level meets what is directly inside a position it meets. -/
theorem mem_below_of_step {levels : Nat} {around : Option Nat} {upper lower : Nat}
    (member : upper ∈ below up count levels around) (inRange : lower < count)
    (step : up lower = some upper) : lower ∈ below up count (levels + 1) around := by
  induction levels generalizing around with
  | zero => simp [below] at member
  | succ levels inductionHypothesis =>
    obtain ⟨top, begins, rfl | deeper⟩ := mem_below_succ.mp member
    · have directly : lower ∈ below up count (levels + 1) (some upper) :=
        mem_below_succ.mpr ⟨lower, ⟨inRange, step⟩, .inl rfl⟩
      exact mem_below_succ.mpr ⟨upper, begins, .inr directly⟩
    · exact mem_below_succ.mpr ⟨top, begins, .inr (inductionHypothesis deeper)⟩

/-- Climbing from a position ends outside everything after a number of steps. -/
inductive Ends (up : Nat → Option Nat) : Nat → Nat → Prop
  | root {position : Nat} (outside : up position = none) : Ends up position 1
  | climb {lower upper steps : Nat} (step : up lower = some upper) (above : Ends up upper steps) :
      Ends up lower (steps + 1)

namespace Ends

/-- There is only one way to climb. -/
theorem unique {position steps others : Nat} (first : Ends up position steps)
    (second : Ends up position others) : steps = others := by
  induction first generalizing others with
  | root outside =>
    cases second with
    | root => rfl
    | climb step => rw [outside] at step; contradiction
  | climb step _ inductionHypothesis =>
    cases second with
    | root outside => rw [outside] at step; contradiction
    | climb other above =>
      obtain rfl := Option.some.inj (step.symm.trans other)
      rw [inductionHypothesis above]

/-- Climbing from within a position takes more steps than from the position itself. -/
theorem eq_or_lt {top position steps others : Nat} (first : Ends up top steps)
    (second : Ends up position others) (within : Within up top position) :
    position = top ∨ steps < others := by
  induction within generalizing others with
  | refl => exact .inl rfl
  | tail _ step inductionHypothesis =>
    cases second with
    | root outside => rw [outside] at step; contradiction
    | climb other above =>
      obtain rfl := Option.some.inj (step.symm.trans other)
      right
      rcases inductionHypothesis above with rfl | order
      · rw [first.unique above]
        exact Nat.lt_succ_self _
      · exact Nat.lt_succ_of_lt order

/-- Climbing ends at something that the position is within. -/
theorem rooted {position steps : Nat} (ends : Ends up position steps) : Rooted up position := by
  induction ends with
  | @root position outside => exact ⟨position, outside, .refl⟩
  | climb step _ inductionHypothesis =>
    obtain ⟨top, outside, within⟩ := inductionHypothesis
    exact ⟨top, outside, within.tail step⟩

/-- The positions on the way are all different. -/
theorem exists_way {position steps : Nat} (ends : Ends up position steps) :
    ∃ way : List Nat, way.length = steps ∧ way.Nodup ∧
      ∀ upper ∈ way, Within up upper position ∧ ∃ fewer, fewer ≤ steps ∧ Ends up upper fewer := by
  induction ends with
  | @root position outside =>
    refine ⟨[position], rfl, List.nodup_singleton position, ?_⟩
    intro upper member
    obtain rfl := List.mem_singleton.mp member
    exact ⟨.refl, 1, Nat.le_refl 1, .root outside⟩
  | @climb lower upper steps step above inductionHypothesis =>
    obtain ⟨way, length, distinct, each⟩ := inductionHypothesis
    refine ⟨lower :: way, by rw [List.length_cons, length], List.nodup_cons.mpr ⟨?_, distinct⟩, ?_⟩
    · intro member
      obtain ⟨_, fewer, order, ends⟩ := each lower member
      have same := (Ends.climb step above).unique ends
      omega
    · intro other member
      rcases List.mem_cons.mp member with rfl | later
      · exact ⟨.refl, steps + 1, Nat.le_refl _, .climb step above⟩
      · obtain ⟨within, fewer, order, ends⟩ := each other later
        exact ⟨within.tail step, fewer, Nat.le_succ_of_le order, ends⟩

/-- Climbing below the count takes no more steps than there are positions. -/
theorem steps_le {position steps : Nat} (ends : Ends up position steps)
    (inRange : ∀ upper, Within up upper position → upper < count) : steps ≤ count := by
  obtain ⟨way, rfl, distinct, each⟩ := ends.exists_way
  have placed : way ⊆ List.range count := fun upper member =>
    List.mem_range.mpr (inRange upper (each upper member).1)
  have bound := (List.subperm_of_subset distinct placed).length_le
  rwa [List.length_range] at bound

/-- As many levels as steps suffice to meet a position. -/
theorem mem_below {position steps : Nat} (ends : Ends up position steps)
    (inRange : ∀ upper, Within up upper position → upper < count) :
    position ∈ Walk.below up count steps none := by
  induction ends with
  | @root position outside =>
    exact mem_below_succ.mpr ⟨position, ⟨inRange position .refl, outside⟩, .inl rfl⟩
  | @climb lower upper _ step _ inductionHypothesis =>
    have met := inductionHypothesis fun other within => inRange other (within.tail step)
    exact mem_below_of_step met (inRange lower .refl) step

end Ends

/-- Climbing ends from what is within a root. -/
theorem Rooted.exists_ends {position : Nat} (rooted : Rooted up position) :
    ∃ steps, Ends up position steps := by
  obtain ⟨top, outside, within⟩ := rooted
  induction within with
  | refl => exact ⟨1, .root outside⟩
  | tail _ step inductionHypothesis =>
    obtain ⟨steps, above⟩ := inductionHypothesis
    exact ⟨steps + 1, .climb step above⟩

/-- No position is met twice where climbing ends. -/
theorem Ends.nodup_below {around : Option Nat} {steps : Nat}
    (ends : ∀ position, up position = around → Ends up position steps) (levels : Nat) :
    (Walk.below up count levels around).Nodup := by
  induction levels generalizing around steps with
  | zero => exact List.nodup_nil
  | succ levels inductionHypothesis =>
    rw [Walk.below, List.nodup_flatMap]
    constructor
    · intro top member
      have here : Ends up top steps := ends top (mem_inside.mp member).2
      refine List.nodup_cons.mpr ⟨?_, inductionHypothesis fun lower step => .climb step here⟩
      intro again
      obtain ⟨next, inTop, further⟩ := within_of_mem_below again
      have there : Ends up next (steps + 1) := .climb inTop here
      rcases there.eq_or_lt here further with rfl | order
      · have := here.unique there
        omega
      · omega
    · have distinct : (inside up count around).Nodup := List.nodup_range.filter _
      refine distinct.imp_of_mem ?_
      intro first second inFirst inSecond different position atFirst atSecond
      have above : Ends up first steps := ends first (mem_inside.mp inFirst).2
      have beside : Ends up second steps := ends second (mem_inside.mp inSecond).2
      rcases Within.total (within_of_mem atFirst) (within_of_mem atSecond) with within | within
      · rcases above.eq_or_lt beside within with same | order
        · exact different same.symm
        · exact absurd order (Nat.lt_irrefl steps)
      · rcases beside.eq_or_lt above within with same | order
        · exact different same
        · exact absurd order (Nat.lt_irrefl steps)

/-- What a rooted position is within is rooted as well. -/
theorem Rooted.of_within {upper position : Nat} (rooted : Rooted up position)
    (within : Within up upper position) : Rooted up upper := by
  obtain ⟨top, outside, above⟩ := rooted
  rcases Within.total above within with under | beyond
  · exact ⟨top, outside, under⟩
  · rcases Relation.ReflTransGen.cases_tail beyond with rfl | ⟨other, _, step⟩
    · exact ⟨top, outside, .refl⟩
    · rw [outside] at step
      contradiction

/-- The walk from the roots meets the rooted positions. -/
theorem mem_below_iff (inRange : ∀ position, Rooted up position → position < count)
    {position : Nat} : position ∈ below up count count none ↔ Rooted up position := by
  constructor
  · exact within_of_mem_below
  · intro rooted
    obtain ⟨steps, ends⟩ := rooted.exists_ends
    have onTheWay : ∀ upper, Within up upper position → upper < count := fun upper within =>
      inRange upper (rooted.of_within within)
    exact below_mono (ends.steps_le onTheWay) (ends.mem_below onTheWay)

/-- Where whatever is around a position comes before it, climbing ends. -/
theorem Earlier.exists_ends (earlier : Earlier up) (position : Nat) :
    ∃ steps, Ends up position steps := by
  induction position using Nat.strongRecOn with
  | ind position inductionHypothesis =>
    cases around : up position with
    | none => exact ⟨1, .root around⟩
    | some upper =>
      obtain ⟨steps, above⟩ := inductionHypothesis upper (earlier position upper around)
      exact ⟨steps + 1, .climb around above⟩

/-- As many levels as positions suffice to meet every position once. -/
theorem below_perm_range (earlier : Earlier up) (count : Nat) :
    (below up count count none).Perm (List.range count) := by
  refine (List.perm_ext_iff_of_nodup (Ends.nodup_below (fun _ => .root) count)
    List.nodup_range).mpr ?_
  intro position
  rw [List.mem_range]
  constructor
  · exact lt_of_mem_below
  · intro inRange
    obtain ⟨steps, ends⟩ := earlier.exists_ends position
    have onTheWay : ∀ upper, Within up upper position → upper < count := fun upper within =>
      Nat.lt_of_le_of_lt (within.le earlier) inRange
    exact below_mono (ends.steps_le onTheWay) (ends.mem_below onTheWay)

/-- In a nested forest, the positions are met in their order. -/
theorem below_eq_range (earlier : Earlier up) (nested : Nested up) (count : Nat) :
    below up count count none = List.range count := by
  have ordered : (below up count count none).Pairwise (· < ·) := by
    refine pairwise_below earlier (fun _ _ order => order) ?_ count none
    intro first second order siblings left inFirst right inSecond
    exact Nat.lt_of_lt_of_le (Within.lt_of_siblings earlier nested order siblings inFirst)
      (Within.le earlier inSecond)
  have unique : ∀ left right, left ∈ below up count count none → right ∈ List.range count →
      left < right → right < left → left = right :=
    fun _ _ _ _ before behind => absurd behind (Nat.lt_asymm before)
  exact List.Perm.eq_of_pairwise unique ordered List.pairwise_lt_range
    (below_perm_range earlier count)

end Drafting.C4.Walk
