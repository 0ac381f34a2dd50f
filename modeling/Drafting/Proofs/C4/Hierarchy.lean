import Drafting.Proofs.C4.Forest
import Drafting.Proofs.Correspondence

/-!
# The forest of any elements

Elements are put into a forest by the names of their parents, of which the first element of a
name counts. The names need not be different or known, and they may lead in a circle.

The main statement is that the forest is complete all the same: the roots are the elements
without a parent, below each element stand all elements whose parent it is, in their order, and
walking the forest meets every element once from which the parents lead to a root, and no other.
-/

namespace Drafting.C4

variable {elements : List Element}

/-- There is an element without a parent at a position. -/
def IsRoot (elements : List Element) (position : Nat) : Prop :=
  ∃ element, elements[position]? = some element ∧ element.parent = none

/-- Going to the parent again and again leads to an element without one. -/
def LeadsToRoot (elements : List Element) (position : Nat) : Prop :=
  ∃ top, IsRoot elements top ∧ Walk.Within (parentAt elements) top position

/-- A tree that has grown from the element at a position: below that element it has, in their
order, trees that have grown from all those whose parent the element is. -/
inductive Grown (elements : List Element) : Nat → Tree → Prop
  | node {position : Nat} {element : Element} {inner : List Nat} {children : List Tree}
      (found : elements[position]? = some element) (ordered : inner.Pairwise (· < ·))
      (complete : ∀ lower, lower ∈ inner ↔ parentAt elements lower = some position)
      (grown : List.Forall₂ (Grown elements) inner children) :
      Grown elements position (.node element children)

instance (elements : List Element) (position : Nat) : Decidable (IsRoot elements position) :=
  decidable_of_iff (elements[position]?.any fun element => element.parent.isNone)
    (by simp [IsRoot, Option.any_eq_true])

/-- The position around another, where whatever has no parent and is no root stands inside a
place behind all elements. -/
def placeAround (elements : List Element) (position : Nat) : Option Nat :=
  if IsRoot elements position then none
  else some ((parentAt elements position).getD elements.length)

/-- A root has no parent. -/
theorem IsRoot.parentAt_eq {position : Nat} (root : IsRoot elements position) :
    parentAt elements position = none := by
  obtain ⟨element, found, top⟩ := root
  rw [parentAt, found, Option.bind_some, parentPosition?, top, Option.bind_none]

/-- A parent and what it is the parent of are elements. -/
theorem lt_of_parentAt {lower upper : Nat} (step : parentAt elements lower = some upper) :
    lower < elements.length ∧ upper < elements.length := by
  obtain ⟨element, found, known⟩ := Option.bind_eq_some_iff.mp step
  obtain ⟨name, _, placed⟩ := Option.bind_eq_some_iff.mp known
  obtain ⟨inside, _, _⟩ := List.findIdx?_eq_some_iff_getElem.mp placed
  exact ⟨(List.getElem?_eq_some_iff.mp found).1, inside⟩

/-- Nothing is around exactly the roots. -/
theorem placeAround_eq_none_iff {position : Nat} :
    placeAround elements position = none ↔ IsRoot elements position := by
  rw [placeAround]
  by_cases root : IsRoot elements position
  · simp [root]
  · simp [root]

/-- The place around a position is an element exactly if that is the parent. -/
theorem placeAround_eq_some_iff {lower upper : Nat} (inRange : upper < elements.length) :
    placeAround elements lower = some upper ↔ parentAt elements lower = some upper := by
  rw [placeAround]
  by_cases root : IsRoot elements lower
  · rw [if_pos root, root.parentAt_eq]
  · rw [if_neg root]
    cases parentAt elements lower with
    | none =>
      rw [Option.getD_none, Option.some.injEq]
      constructor
      · intro same
        omega
      · intro absent
        contradiction
    | some first => rw [Option.getD_some]

/-- What leads to a root is below the number of elements. -/
theorem LeadsToRoot.lt {position : Nat} (leads : LeadsToRoot elements position) :
    position < elements.length := by
  obtain ⟨top, ⟨element, found, _⟩, within⟩ := leads
  rcases Relation.ReflTransGen.cases_tail within with rfl | ⟨upper, _, step⟩
  · exact (List.getElem?_eq_some_iff.mp found).1
  · exact (lt_of_parentAt step).1

/-- A position is rooted exactly if its parents lead to a root. -/
theorem rooted_iff {position : Nat} :
    Walk.Rooted (placeAround elements) position ↔ LeadsToRoot elements position := by
  constructor
  · rintro ⟨top, outside, within⟩
    induction within with
    | refl => exact ⟨top, placeAround_eq_none_iff.mp outside, .refl⟩
    | tail _ step inductionHypothesis =>
      obtain ⟨top, root, above⟩ := inductionHypothesis
      have inRange := LeadsToRoot.lt ⟨top, root, above⟩
      exact ⟨top, root, above.tail ((placeAround_eq_some_iff inRange).mp step)⟩
  · rintro ⟨top, root, within⟩
    have steps : ∀ upper lower, parentAt elements lower = some upper →
        placeAround elements lower = some upper := fun upper lower step =>
      (placeAround_eq_some_iff (lt_of_parentAt step).2).mpr step
    exact ⟨top, placeAround_eq_none_iff.mpr root, Relation.ReflTransGen.mono steps _ _ within⟩

/-- The forest is given by the places around the positions. -/
theorem describes_placeAround (elements : List Element) :
    Describes elements (placeAround elements) where
  roots := by
    refine map_snd_filter_zipIdx elements ?_
    intro position element found
    rw [Bool.eq_iff_iff, Option.isNone_iff_eq_none, beq_iff_eq, placeAround_eq_none_iff, IsRoot,
      found]
    simp
  children position inRange := by
    rw [childPositions_eq]
    refine List.filter_congr ?_
    intro lower _
    rw [Bool.eq_iff_iff, beq_iff_eq, beq_iff_eq, placeAround_eq_some_iff inRange]
  parents position _ := by
    rw [placeAround]
    by_cases root : IsRoot elements position
    · rw [if_pos root, root.parentAt_eq]
    · rw [if_neg root]
      cases parentAt elements position with
      | none => simp
      | some upper => rfl

/-- The positions of the roots are those of the elements without a parent. -/
theorem mem_rootPositions {position : Nat} :
    position ∈ rootPositions elements ↔ IsRoot elements position := by
  rw [(describes_placeAround elements).roots, Walk.mem_inside, placeAround_eq_none_iff]
  constructor
  · exact And.right
  · intro root
    exact ⟨LeadsToRoot.lt ⟨position, root, .refl⟩, root⟩

/-- The positions inside one are those whose parent it is. -/
theorem mem_childPositions {lower upper : Nat} :
    lower ∈ childPositions elements upper ↔ parentAt elements lower = some upper := by
  rw [childPositions_eq, Walk.mem_inside]
  constructor
  · exact And.right
  · intro step
    exact ⟨(lt_of_parentAt step).1, step⟩

/-- Climbing ends only from elements. -/
theorem lt_of_rooted {position : Nat} (rooted : Walk.Rooted (placeAround elements) position) :
    position < elements.length := (rooted_iff.mp rooted).lt

/-- Deep enough, a tree grows from a position from which climbing ends. -/
theorem exists_grown {position steps levels : Nat}
    (ends : Walk.Ends (placeAround elements) position steps)
    (enough : elements.length < steps + levels) :
    ∃ tree, treeAt elements levels position = some tree ∧ Grown elements position tree := by
  induction levels generalizing position steps with
  | zero =>
    have bound : steps ≤ elements.length := ends.steps_le fun upper within =>
      lt_of_rooted (ends.rooted.of_within within)
    omega
  | succ levels inductionHypothesis =>
    have found : elements[position]? = some (elements.get ⟨position, lt_of_rooted ends.rooted⟩) :=
      List.getElem?_eq_getElem (lt_of_rooted ends.rooted)
    have grown : ∀ lower ∈ childPositions elements position,
        ∃ tree, treeAt elements levels lower = some tree ∧ Grown elements lower tree := by
      intro lower member
      have step := mem_childPositions.mp member
      have around := (placeAround_eq_some_iff (lt_of_parentAt step).2).mpr step
      exact inductionHypothesis (.climb around ends) (by omega)
    have ordered : (childPositions elements position).Pairwise (· < ·) := by
      rw [childPositions_eq]
      exact Walk.pairwise_inside _ _ _
    refine ⟨_, ?_, .node found ordered (fun _ => mem_childPositions) (forall₂_filterMap grown)⟩
    rw [treeAt, found, Option.map_some]

/-- Whatever the names of elements and parents are, the roots of the forest are the elements
without a parent, and below each element stand all those whose parent it is, in their order.
Walking the forest meets every element once whose parents lead to a root, and no other. -/
theorem forest_complete (elements : List Element) :
    ∃ roots order : List Nat,
      roots.Pairwise (· < ·) ∧ (∀ position, position ∈ roots ↔ IsRoot elements position) ∧
      List.Forall₂ (Grown elements) roots (forest elements) ∧
      order.Nodup ∧ (∀ position, position ∈ order ↔ LeadsToRoot elements position) ∧
      (Tree.flattenAll 0 (forest elements)).map Prod.fst = order.filterMap (elements[·]?) := by
  have describes := describes_placeAround elements
  have ordered : (rootPositions elements).Pairwise (· < ·) := by
    rw [describes.roots]
    exact Walk.pairwise_inside _ _ _
  have grown : ∀ position ∈ rootPositions elements, ∃ tree,
      treeAt elements elements.length position = some tree ∧ Grown elements position tree := by
    intro position member
    have outside := placeAround_eq_none_iff.mpr (mem_rootPositions.mp member)
    exact exists_grown (.root outside) (by omega)
  have met : ∀ position,
      position ∈ Walk.below (placeAround elements) elements.length elements.length none ↔
        LeadsToRoot elements position := by
    intro position
    rw [Walk.mem_below_iff fun _ => lt_of_rooted, rooted_iff]
  exact ⟨rootPositions elements, _, ordered, fun _ => mem_rootPositions, forall₂_filterMap grown,
    Walk.Ends.nodup_below (fun _ => .root) elements.length, met, describes.flattenAll_forest⟩

/-- A shop with a store in it, beside two elements around each other, one around itself and one
with an unknown parent. -/
example :
    (Tree.flattenAll 0 (forest
      [{ name := "a", label := "A", kind := "System", parent := some "b" },
        { name := "store", label := "Store", kind := "Container", parent := some "shop" },
        { name := "b", label := "B", kind := "System", parent := some "a" },
        { name := "c", label := "C", kind := "System", parent := some "c" },
        { name := "d", label := "D", kind := "System", parent := some "nowhere" },
        { name := "shop", label := "Shop", kind := "System" }])).map
      (fun found => (found.1.name, found.2)) = [("shop", 0), ("store", 1)] := by
  decide +kernel

end Drafting.C4
