import Drafting.C4.Basic

/-!
# Places in a forest

A tree inside a forest is known by its path: the numbers of the trees that it takes to go there
from the top, each of them counted among those directly inside the same.

The main statements are that walking a forest meets the trees at all paths, each at the depth to
which its path leads, and that the paths increase, where a path comes before all that go on from
it.
-/

namespace Drafting.C4.Tree

/-- The tree to which a path leads in a forest. -/
inductive Stands (trees : List Tree) : List Nat → Tree → Prop
  | root {number : Nat} {tree : Tree} (found : trees[number]? = some tree) :
      Stands trees [number] tree
  | inside {path : List Nat} {number : Nat} {parent tree : Tree} (above : Stands trees path parent)
      (found : parent.children[number]? = some tree) : Stands trees (path ++ [number]) tree

/-- No path leads nowhere. -/
theorem Stands.length_pos {trees : List Tree} {path : List Nat} {tree : Tree}
    (stands : Stands trees path tree) : 0 < path.length := by
  cases stands with
  | root => exact Nat.one_pos
  | inside =>
    rw [List.length_append]
    exact Nat.succ_pos _

mutual

/-- A tree at a path and those inside it with their paths, each before those inside it. -/
def places (path : List Nat) : Tree → List (List Nat × Tree)
  | node element children => (path, node element children) :: placesAll path 0 children

/-- The same for some trees that stand behind each other at a path, from a number on. -/
def placesAll (path : List Nat) (number : Nat) : List Tree → List (List Nat × Tree)
  | [] => []
  | first :: others => places (path ++ [number]) first ++ placesAll path (number + 1) others

end

/-- The element at the top of a tree and the depth to which a path leads. -/
def entryAt (place : List Nat × Tree) : Element × Nat := (place.2.element, place.1.length - 1)

mutual

/-- A tree has the same elements with their paths as with their depths. -/
theorem map_entryAt_places {path : List Nat} {depth : Nat} (leads : path.length = depth + 1)
    (tree : Tree) : (places path tree).map entryAt = flatten depth tree := by
  obtain ⟨element, children⟩ := tree
  rw [places, flatten, List.map_cons, map_entryAt_placesAll path 0 children, leads, entryAt, leads]
  rfl

/-- Some trees have the same elements with their paths as with their depths. -/
theorem map_entryAt_placesAll (path : List Nat) (number : Nat) (trees : List Tree) :
    (placesAll path number trees).map entryAt = flattenAll path.length trees := by
  cases trees with
  | nil => rfl
  | cons first others =>
    have leads : (path ++ [number]).length = path.length + 1 := List.length_append
    rw [placesAll, flattenAll, List.map_append, map_entryAt_places leads first,
      map_entryAt_placesAll path (number + 1) others]

end

mutual

/-- To what is met in a tree, its path leads. -/
theorem stands_of_mem_places {whole : List Tree} {path : List Nat} {tree : Tree}
    (stands : Stands whole path tree) {place : List Nat × Tree}
    (member : place ∈ places path tree) : Stands whole place.1 place.2 := by
  obtain ⟨element, children⟩ := tree
  rcases List.mem_cons.mp member with rfl | deeper
  · exact stands
  · refine stands_of_mem_placesAll ?_ deeper
    intro number child found
    rw [Nat.zero_add]
    exact .inside stands found

/-- To what is met in some trees, its path leads. -/
theorem stands_of_mem_placesAll {whole : List Tree} {path : List Nat} {start : Nat}
    {trees : List Tree}
    (stand : ∀ number tree, trees[number]? = some tree →
      Stands whole (path ++ [start + number]) tree)
    {place : List Nat × Tree} (member : place ∈ placesAll path start trees) :
    Stands whole place.1 place.2 := by
  cases trees with
  | nil => contradiction
  | cons first others =>
    rcases List.mem_append.mp member with here | later
    · exact stands_of_mem_places (stand 0 first rfl) here
    · refine stands_of_mem_placesAll ?_ later
      intro number tree found
      rw [Nat.add_assoc, Nat.add_comm 1]
      exact stand (number + 1) tree found

end

/-- Walking some trees meets all that walking one of them meets. -/
theorem places_subset_placesAll {path : List Nat} {start number : Nat} {trees : List Tree}
    {tree : Tree} (found : trees[number]? = some tree) :
    places (path ++ [start + number]) tree ⊆ placesAll path start trees := by
  induction trees generalizing start number with
  | nil => contradiction
  | cons first others inductionHypothesis =>
    cases number with
    | zero =>
      obtain rfl := Option.some.inj found
      exact List.subset_append_left _ _
    | succ number =>
      have later : places (path ++ [start + 1 + number]) tree ⊆ placesAll path (start + 1) others :=
        inductionHypothesis found
      rw [Nat.add_assoc, Nat.add_comm 1] at later
      exact List.subset_append_of_subset_right _ later

/-- Walking a forest meets all that walking a tree inside it meets. -/
theorem Stands.places_subset {trees : List Tree} {path : List Nat} {tree : Tree}
    (stands : Stands trees path tree) : places path tree ⊆ placesAll [] 0 trees := by
  induction stands with
  | @root number tree found =>
    have here : places ([] ++ [0 + number]) tree ⊆ placesAll [] 0 trees :=
      places_subset_placesAll found
    rwa [Nat.zero_add] at here
  | @inside path number parent tree _ found inductionHypothesis =>
    obtain ⟨element, children⟩ := parent
    have here : places (path ++ [0 + number]) tree ⊆ placesAll path 0 children :=
      places_subset_placesAll found
    rw [Nat.zero_add] at here
    exact List.Subset.trans (List.subset_cons_of_subset _ here) inductionHypothesis

/-- Walking a forest meets the trees to which paths lead. -/
theorem mem_placesAll_iff {trees : List Tree} {path : List Nat} {tree : Tree} :
    (path, tree) ∈ placesAll [] 0 trees ↔ Stands trees path tree := by
  constructor
  · intro member
    refine stands_of_mem_placesAll ?_ member
    intro number tree found
    rw [Nat.zero_add]
    exact .root found
  · intro stands
    apply stands.places_subset
    obtain ⟨element, children⟩ := tree
    exact List.mem_cons_self

mutual

/-- The paths of what is inside a tree go on from its own. -/
theorem exists_of_mem_places {path : List Nat} {tree : Tree} {place : List Nat × Tree}
    (member : place ∈ places path tree) : ∃ rest, place.1 = path ++ rest := by
  obtain ⟨element, children⟩ := tree
  rcases List.mem_cons.mp member with rfl | deeper
  · exact ⟨[], (List.append_nil path).symm⟩
  · obtain ⟨number, rest, _, same⟩ := exists_of_mem_placesAll deeper
    exact ⟨number :: rest, same⟩

/-- The paths of some trees and what is inside them go on with their numbers. -/
theorem exists_of_mem_placesAll {path : List Nat} {start : Nat} {trees : List Tree}
    {place : List Nat × Tree} (member : place ∈ placesAll path start trees) :
    ∃ number rest, start ≤ number ∧ place.1 = path ++ number :: rest := by
  cases trees with
  | nil => contradiction
  | cons first others =>
    rcases List.mem_append.mp member with here | later
    · obtain ⟨rest, same⟩ := exists_of_mem_places here
      exact ⟨start, rest, Nat.le_refl start, by rw [same, List.append_assoc]; rfl⟩
    · obtain ⟨number, rest, order, same⟩ := exists_of_mem_placesAll later
      exact ⟨number, rest, Nat.le_of_succ_le order, same⟩

end

mutual

/-- The paths in a tree increase. -/
theorem pairwise_places (path : List Nat) (tree : Tree) :
    (places path tree).Pairwise fun first second => first.1 < second.1 := by
  obtain ⟨element, children⟩ := tree
  refine List.pairwise_cons.mpr ⟨?_, pairwise_placesAll path 0 children⟩
  intro place member
  obtain ⟨number, rest, _, same⟩ := exists_of_mem_placesAll member
  have longer : path ++ [] < path ++ number :: rest :=
    List.append_left_lt (List.nil_lt_cons number rest)
  rwa [List.append_nil, ← same] at longer

/-- The paths in some trees increase. -/
theorem pairwise_placesAll (path : List Nat) (start : Nat) (trees : List Tree) :
    (placesAll path start trees).Pairwise fun first second => first.1 < second.1 := by
  cases trees with
  | nil => exact .nil
  | cons first others =>
    refine List.pairwise_append.mpr ⟨pairwise_places _ first,
      pairwise_placesAll path (start + 1) others, ?_⟩
    intro left inFirst right inOthers
    obtain ⟨before, sameLeft⟩ := exists_of_mem_places inFirst
    obtain ⟨number, behind, order, sameRight⟩ := exists_of_mem_placesAll inOthers
    rw [sameLeft, sameRight, List.append_assoc]
    exact List.append_left_lt (List.cons_lt_cons_iff.mpr (.inl order))

end

mutual

/-- A path in a tree goes no further than there are trees in it. -/
theorem length_lt_of_mem_places {path : List Nat} {tree : Tree} {place : List Nat × Tree}
    (member : place ∈ places path tree) :
    place.1.length < path.length + (places path tree).length := by
  obtain ⟨element, children⟩ := tree
  rw [places, List.length_cons]
  rcases List.mem_cons.mp member with rfl | deeper
  · exact Nat.lt_add_of_pos_right (Nat.succ_pos _)
  · have bound := length_le_of_mem_placesAll deeper
    omega

/-- A path in some trees goes no further than there are trees in them. -/
theorem length_le_of_mem_placesAll {path : List Nat} {start : Nat} {trees : List Tree}
    {place : List Nat × Tree} (member : place ∈ placesAll path start trees) :
    place.1.length ≤ path.length + (placesAll path start trees).length := by
  cases trees with
  | nil => contradiction
  | cons first others =>
    rw [placesAll, List.length_append]
    rcases List.mem_append.mp member with here | later
    · have bound := length_lt_of_mem_places here
      rw [List.length_append, List.length_singleton] at bound
      omega
    · have bound := length_le_of_mem_placesAll later
      omega

end

end Drafting.C4.Tree
