import Drafting.Proofs.C4.Blocks

/-!
# The forest of a source

The elements of a source are put into a forest by the names of their parents. No element is
left out: every parent was declared before, so the levels suffice and no names lead in a
circle. Elements of the same name may come to stand inside the first of that name, but where
all names are different, the forest is that of the blocks.

The main statement is that walking the forest meets every declared element once, and that it
meets them in the order of the source and inside the right elements if their names differ.
-/

namespace Drafting.C4

open Text

/-- An element without its parent. -/
def Element.bare (element : Element) : Element := { element with parent := none }

namespace Tree

mutual

/-- The elements of a tree, each before those inside it, with the element directly around. -/
def withParents (around : Option Element) : Tree → List (Element × Option Element)
  | node element children => (element, around) :: withParentsAll (some element) children

/-- The elements of some trees that stand inside the same element. -/
def withParentsAll (around : Option Element) : List Tree → List (Element × Option Element)
  | [] => []
  | first :: others => withParents around first ++ withParentsAll around others

end

/-- The elements of some trees are those of the first, then those of the second, and so
on. -/
theorem withParentsAll_eq_flatMap (around : Option Element) (trees : List Tree) :
    withParentsAll around trees = trees.flatMap (withParents around) := by
  induction trees with
  | nil => rfl
  | cons first others inductionHypothesis => simp [withParentsAll, inductionHypothesis]

mutual

/-- A tree has the same elements with their parents as with their depths. -/
theorem map_fst_withParents (depth : Nat) (around : Option Element) (tree : Tree) :
    (withParents around tree).map Prod.fst = (flatten depth tree).map Prod.fst := by
  obtain ⟨element, children⟩ := tree
  simp [withParents, flatten, map_fst_withParentsAll (depth + 1) (some element) children]

/-- Some trees have the same elements with their parents as with their depths. -/
theorem map_fst_withParentsAll (depth : Nat) (around : Option Element) (trees : List Tree) :
    (withParentsAll around trees).map Prod.fst = (flattenAll depth trees).map Prod.fst := by
  cases trees with
  | nil => rfl
  | cons first others =>
    simp [withParentsAll, flattenAll, map_fst_withParents depth around first,
      map_fst_withParentsAll depth around others]

end

end Tree

/-- The position of the first element that has the name of a parent. -/
def parentAt (elements : List Element) (position : Nat) : Option Nat :=
  elements[position]?.bind (parentPosition? elements)

/-- Every element with a parent has a known one. -/
def ParentsKnown (elements : List Element) : Prop :=
  ∀ element ∈ elements, parentPosition? elements element = none → element.parent = none

/-- The element at a position and the one at the position of its parent. -/
def entryAt? (elements : List Element) (position : Nat) : Option (Element × Option Element) :=
  elements[position]?.map fun element =>
    (element, (parentAt elements position).bind (elements[·]?))

/-- The positions in a list are those at which its items stand. -/
theorem range_length_eq {α : Type} (items : List α) :
    List.range items.length = items.zipIdx.map Prod.snd := by
  rw [List.zipIdx_map_snd, List.range_eq_range']

/-- The items at all positions in a list are the list. -/
theorem filterMap_range_length {α : Type} (items : List α) :
    (List.range items.length).filterMap (items[·]?) = items := by
  calc (List.range items.length).filterMap (items[·]?)
      = items.zipIdx.filterMap fun entry => items[entry.2]? := by
        rw [range_length_eq, List.filterMap_map]
        rfl
    _ = items.zipIdx.filterMap (some ∘ Prod.fst) :=
        List.filterMap_congr fun _ member => List.mem_zipIdx_iff_getElem?.mp member
    _ = items := by rw [List.filterMap_eq_map, List.zipIdx_map_fst]

/-- A selection of the items of a list is one of their positions. -/
theorem map_snd_filter_zipIdx {α : Type} (items : List α) {accepts : α × Nat → Bool}
    {chosen : Nat → Bool}
    (same : ∀ position item, items[position]? = some item →
      accepts (item, position) = chosen position) :
    (items.zipIdx.filter accepts).map Prod.snd = (List.range items.length).filter chosen := by
  rw [range_length_eq, List.filter_map]
  congr 1
  refine List.filter_congr ?_
  rintro ⟨item, position⟩ member
  exact same position item (List.mem_zipIdx_iff_getElem?.mp member)

/-- The elements inside another are those whose parent it is. -/
theorem childPositions_eq (elements : List Element) (position : Nat) :
    childPositions elements position =
      Walk.inside (parentAt elements) elements.length (some position) := by
  refine map_snd_filter_zipIdx elements ?_
  intro place element found
  rw [parentAt, found, Option.bind_some]

/-- Where all parents are known, the roots are the elements without one. -/
theorem rootPositions_eq {elements : List Element} (known : ParentsKnown elements) :
    rootPositions elements = Walk.inside (parentAt elements) elements.length none := by
  refine map_snd_filter_zipIdx elements ?_
  intro place element found
  rw [parentAt, found, Option.bind_some]
  rw [Bool.eq_iff_iff, Option.isNone_iff_eq_none, beq_iff_eq]
  constructor
  · intro absent
    rw [parentPosition?, absent, Option.bind_none]
  · exact known element (List.mem_of_getElem? found)

/-- The forest of some elements is the one that is given by the position around each. -/
structure Describes (elements : List Element) (up : Nat → Option Nat) : Prop where
  roots : rootPositions elements = Walk.inside up elements.length none
  children : ∀ position, position < elements.length →
    childPositions elements position = Walk.inside up elements.length (some position)
  parents : ∀ position, position < elements.length →
    (up position).bind (elements[·]?) = (parentAt elements position).bind (elements[·]?)

/-- Where all parents are known, the forest is given by their positions. -/
theorem ParentsKnown.describes {elements : List Element} (known : ParentsKnown elements) :
    Describes elements (parentAt elements) where
  roots := rootPositions_eq known
  children position _ := childPositions_eq elements position
  parents _ _ := rfl

namespace Describes

variable {elements : List Element} {up : Nat → Option Nat}

/-- The trees at the positions inside one hold what the walk meets there. -/
theorem withParentsAll_treeAt (describes : Describes elements up) (levels : Nat)
    (around : Option Nat) :
    Tree.withParentsAll (around.bind (elements[·]?))
        ((Walk.inside up elements.length around).filterMap (treeAt elements levels)) =
      (Walk.below up elements.length levels around).filterMap (entryAt? elements) := by
  induction levels generalizing around with
  | zero => simp [Walk.below, treeAt, Tree.withParentsAll]
  | succ levels inductionHypothesis =>
    rw [Walk.below, List.filterMap_flatMap, Tree.withParentsAll_eq_flatMap,
      List.filterMap_eq_flatMap_toList, List.flatMap_assoc]
    refine List.flatMap_congr ?_
    intro position member
    obtain ⟨inRange, begins⟩ := Walk.mem_inside.mp member
    have found : elements[position]? = some elements[position] :=
      List.getElem?_eq_getElem inRange
    have children := inductionHypothesis (some position)
    rw [Option.bind_some, found, ← describes.children position inRange] at children
    have tree : treeAt elements (levels + 1) position =
        some (.node elements[position]
          ((childPositions elements position).filterMap (treeAt elements levels))) := by
      rw [treeAt, found, Option.map_some]
    have entry : entryAt? elements position =
        some (elements[position], around.bind (elements[·]?)) := by
      rw [entryAt?, found, Option.map_some, ← describes.parents position inRange, begins]
    rw [tree, List.filterMap_cons_some entry, ← children]
    simp [Tree.withParents]

/-- The forest holds what the walk from the roots meets. -/
theorem withParentsAll_forest (describes : Describes elements up) :
    Tree.withParentsAll none (forest elements) =
      (Walk.below up elements.length elements.length none).filterMap (entryAt? elements) := by
  rw [forest, describes.roots]
  exact describes.withParentsAll_treeAt elements.length none

/-- The elements of the forest are those that the walk from the roots meets. -/
theorem flattenAll_forest (describes : Describes elements up) :
    (Tree.flattenAll 0 (forest elements)).map Prod.fst =
      (Walk.below up elements.length elements.length none).filterMap (elements[·]?) := by
  have entries (position : Nat) : (entryAt? elements position).map Prod.fst =
      elements[position]? := by
    rw [entryAt?, Option.map_map]
    exact Option.map_id'
  rw [← Tree.map_fst_withParentsAll 0 none, describes.withParentsAll_forest, List.map_filterMap]
  simp only [entries]

end Describes

/-- The first element of a name stands at or before every other of that name. -/
theorem positionOf?_of_name {elements : List Element} {position : Nat} {name : String}
    (named : Nesting.nameAt elements position = some name) :
    ∃ first, positionOf? elements name = some first ∧ first ≤ position ∧
      Nesting.nameAt elements first = some name := by
  obtain ⟨element, found, same⟩ := Option.map_eq_some_iff.mp named
  obtain ⟨inRange, rfl⟩ := List.getElem?_eq_some_iff.mp found
  have present : (positionOf? elements name).isSome := by
    rw [positionOf?, List.findIdx?_isSome]
    exact List.any_eq_true.mpr ⟨elements[position], List.getElem_mem inRange, by simp [same]⟩
  obtain ⟨first, placed⟩ := Option.isSome_iff_exists.mp present
  obtain ⟨inside, matched, before⟩ := List.findIdx?_eq_some_iff_getElem.mp placed
  refine ⟨first, placed, ?_, ?_⟩
  · by_contra behind
    exact before position (by omega) (by simp [same])
  · have firstNamed : elements[first].name = name := by simpa using matched
    rw [Nesting.nameAt, List.getElem?_eq_getElem inside, Option.map_some, firstNamed]

/-- Where all names are different, the first element of a name is the only one. -/
theorem positionOf?_of_nodup {elements : List Element}
    (distinct : (elements.map Element.name).Nodup) {position : Nat} {name : String}
    (named : Nesting.nameAt elements position = some name) :
    positionOf? elements name = some position := by
  obtain ⟨first, placed, _, same⟩ := positionOf?_of_name named
  have names : ∀ number, Nesting.nameAt elements number =
      (elements.map Element.name)[number]? := fun number => by
    rw [List.getElem?_map]
    rfl
  rw [names] at named same
  obtain ⟨inRange, here⟩ := List.getElem?_eq_some_iff.mp named
  obtain ⟨inside, there⟩ := List.getElem?_eq_some_iff.mp same
  rw [placed, distinct.getElem_inj_iff.mp (there.trans here.symm)]

namespace Nesting

/-- The element at a position has the name of the one around it for a parent. -/
theorem getElem?_elements (nesting : Nesting) (position : Nat) :
    nesting.elements[position]? = nesting.entries[position]?.map fun (element, around) =>
      { element with parent := around.bind (nameAt nesting.declared) } := List.getElem?_map

/-- The names by position do not depend on the parents. -/
theorem nameAt_elements (nesting : Nesting) :
    nameAt nesting.elements = nameAt nesting.declared := by
  funext number
  rw [nameAt, nameAt, elements, declared, List.getElem?_map, List.getElem?_map, Option.map_map,
    Option.map_map]
  rfl

/-- The parent of an element has the name of the one around it. -/
theorem parentAt_elements (nesting : Nesting) (position : Nat) :
    parentAt nesting.elements position =
      ((nesting.around position).bind (nameAt nesting.elements)).bind
        (positionOf? nesting.elements) := by
  rw [nameAt_elements, parentAt, around, getElem?_elements]
  cases nesting.entries[position]? <;> rfl

/-- The one around an element has a name. -/
theorem Sound.nameAt_around {nesting : Nesting} (sound : nesting.Sound) {lower upper : Nat}
    (step : nesting.around lower = some upper) :
    ∃ name, nameAt nesting.elements upper = some name := by
  have before : upper < nesting.declared.length := by
    rw [length_declared]
    exact Nat.lt_trans (sound.earlier lower upper step) (lt_of_around step)
  rw [nameAt_elements, nameAt, List.getElem?_eq_getElem before]
  exact ⟨_, rfl⟩

/-- A parent comes before its children. -/
theorem Sound.earlier_parentAt {nesting : Nesting} (sound : nesting.Sound) :
    Walk.Earlier (parentAt nesting.elements) := by
  intro lower upper step
  rw [parentAt_elements] at step
  obtain ⟨name, named, placed⟩ := Option.bind_eq_some_iff.mp step
  obtain ⟨around, inside, named⟩ := Option.bind_eq_some_iff.mp named
  obtain ⟨first, found, order, _⟩ := positionOf?_of_name named
  obtain rfl : first = upper := Option.some.inj (found.symm.trans placed)
  exact Nat.lt_of_le_of_lt order (sound.earlier lower around inside)

/-- Every parent is known. -/
theorem Sound.parentsKnown {nesting : Nesting} (sound : nesting.Sound) :
    ParentsKnown nesting.elements := by
  intro element member unknown
  obtain ⟨position, found⟩ := List.mem_iff_getElem?.mp member
  have parent : parentAt nesting.elements position = none := by
    rw [parentAt, found, Option.bind_some, unknown]
  rw [parentAt_elements] at parent
  have inside : element.parent = (nesting.around position).bind (nameAt nesting.declared) := by
    rw [getElem?_elements] at found
    obtain ⟨entry, listed, rfl⟩ := Option.map_eq_some_iff.mp found
    rw [around, listed]
    rfl
  cases around : nesting.around position with
  | none => rw [inside, around, Option.bind_none]
  | some upper =>
    obtain ⟨name, named⟩ := sound.nameAt_around around
    obtain ⟨first, placed, _⟩ := positionOf?_of_name named
    rw [around, Option.bind_some, named, Option.bind_some, placed] at parent
    cases parent

/-- Where all names are different, the parent of an element is the one around it. -/
theorem Sound.parentAt_eq_around {nesting : Nesting} (sound : nesting.Sound)
    (distinct : (nesting.elements.map Element.name).Nodup) :
    parentAt nesting.elements = nesting.around := by
  funext position
  rw [parentAt_elements]
  cases around : nesting.around position with
  | none => rfl
  | some upper =>
    obtain ⟨name, named⟩ := sound.nameAt_around around
    rw [Option.bind_some, named, Option.bind_some, positionOf?_of_nodup distinct named]

/-- Walking the forest meets every element once. -/
theorem Sound.flattenAll_perm {nesting : Nesting} (sound : nesting.Sound) :
    ((Tree.flattenAll 0 (forest nesting.elements)).map Prod.fst).Perm nesting.elements := by
  have met := (Walk.below_perm_range sound.earlier_parentAt nesting.elements.length).filterMap
    (nesting.elements[·]?)
  rw [filterMap_range_length] at met
  rwa [sound.parentsKnown.describes.flattenAll_forest]

/-- Where all names are different, the positions are met in their order. -/
theorem Sound.below_eq_range {nesting : Nesting} (sound : nesting.Sound)
    (distinct : (nesting.elements.map Element.name).Nodup) (count : Nat) :
    Walk.below (parentAt nesting.elements) count count none = List.range count := by
  refine Walk.below_eq_range sound.earlier_parentAt ?_ count
  rw [sound.parentAt_eq_around distinct]
  exact sound.nested

/-- Where all names are different, walking the forest meets the elements in their order. -/
theorem Sound.flattenAll_eq {nesting : Nesting} (sound : nesting.Sound)
    (distinct : (nesting.elements.map Element.name).Nodup) :
    (Tree.flattenAll 0 (forest nesting.elements)).map Prod.fst = nesting.elements := by
  rw [sound.parentsKnown.describes.flattenAll_forest, sound.below_eq_range distinct,
    filterMap_range_length]

/-- A line declares an element without a parent. -/
theorem bare_of_declaration? {line : List Char} {element : Element}
    (declares : declaration? line = some element) : element.bare = element := by
  rw [declaration?] at declares
  split at declares
  · cases declares
  · have same := element?_parent none line
    rw [declares, Option.map_some] at same
    exact (Option.some.inj same).symm

/-- Without their parents, the elements are those that the lines declare. -/
theorem map_bare_elements (lines : List (List Char)) :
    (ofLines lines).elements.map Element.bare = lines.filterMap declaration? := by
  have bare : (ofLines lines).elements.map Element.bare =
      (ofLines lines).declared.map Element.bare := by
    rw [elements, declared, List.map_map, List.map_map]
    rfl
  rw [bare, declared_ofLines, List.map_filterMap]
  refine List.filterMap_congr fun line _ => ?_
  cases declares : declaration? line with
  | none => rfl
  | some element => rw [Option.map_some, bare_of_declaration? declares]

/-- An element and the one around it, without their parents. -/
def barePair (pair : Element × Option Element) : Element × Option Element :=
  (pair.1.bare, pair.2.map Element.bare)

/-- Where the parents are the elements around, the entries of the forest are the pairs. -/
theorem entryAt?_elements {lines : List (List Char)}
    (parents : parentAt (ofLines lines).elements = (ofLines lines).around) (position : Nat) :
    (entryAt? (ofLines lines).elements position).map barePair =
      (ofLines lines).pairs[position]? := by
  have bare (number : Nat) : (ofLines lines).elements[number]?.map Element.bare =
      (ofLines lines).declared[number]? := by
    rw [← List.getElem?_map, map_bare_elements, declared_ofLines]
  have here := bare position
  rw [getElem?_elements _ position, declared, List.getElem?_map] at here
  rw [entryAt?, getElem?_elements _ position, parents, around, pairs, List.getElem?_map]
  cases entry : (ofLines lines).entries[position]? with
  | none => rfl
  | some pair =>
    obtain ⟨element, around⟩ := pair
    rw [entry] at here
    have same : element.bare = element := Option.some.inj here
    have inside : (around.bind ((ofLines lines).elements[·]?)).map Element.bare =
        around.bind ((ofLines lines).declared[·]?) := by
      cases around with
      | none => rfl
      | some number => exact bare number
    simp only [Option.map_some, Option.bind_some, barePair, inside]
    exact congrArg (fun shown => some (shown, _)) same

/-- Where all names are different, each element stands inside the one whose block is
innermost around it. -/
theorem withParentsAll_eq_pairs (lines : List (List Char))
    (distinct : ((ofLines lines).elements.map Element.name).Nodup) :
    (Tree.withParentsAll none (forest (ofLines lines).elements)).map barePair =
      (ofLines lines).pairs := by
  have sound := sound_ofLines lines
  have length : (ofLines lines).elements.length = (ofLines lines).pairs.length := by
    simp [elements, pairs]
  rw [sound.parentsKnown.describes.withParentsAll_forest, sound.below_eq_range distinct,
    List.map_filterMap, length]
  simp only [entryAt?_elements (sound.parentAt_eq_around distinct)]
  exact filterMap_range_length _

/-- The names do not depend on the parents. -/
theorem map_name_elements (lines : List (List Char)) :
    (ofLines lines).elements.map Element.name =
      (lines.filterMap declaration?).map Element.name := by
  rw [← map_bare_elements, List.map_map]
  rfl

end Nesting

/-- Walking the forest of a source meets every declared element once. Where all names are
different, the elements are met in the order of the source, and each stands inside the one
whose block is innermost around it. -/
theorem flattenAll_trees (text : String) :
    ((Tree.flattenAll 0 (trees text)).map fun found => found.1.bare).Perm
        ((sourceLines text).filterMap declaration?) ∧
      ((((sourceLines text).filterMap declaration?).map Element.name).Nodup →
        (Tree.flattenAll 0 (trees text)).map (fun found => found.1.bare) =
            (sourceLines text).filterMap declaration? ∧
          (Tree.withParentsAll none (trees text)).map Nesting.barePair =
            (Nesting.ofLines (sourceLines text)).pairs) := by
  have sound := Nesting.sound_ofLines (sourceLines text)
  have flat : (Tree.flattenAll 0 (trees text)).map (fun found => found.1.bare) =
      ((Tree.flattenAll 0 (trees text)).map Prod.fst).map Element.bare := by
    rw [List.map_map]
    rfl
  rw [flat, trees, Nesting.declarations_eq, ← Nesting.map_name_elements,
    ← Nesting.map_bare_elements]
  constructor
  · exact sound.flattenAll_perm.map Element.bare
  · intro distinct
    constructor
    · rw [sound.flattenAll_eq distinct]
    · exact Nesting.withParentsAll_eq_pairs (sourceLines text) distinct

/-- A shop with a boundary around one of its two containers, and a person outside. -/
def shop : String :=
  "System(shop, Shop) \x7b\nBoundary(inner, Inner) \x7b\nContainer(web, Web)\n\x7d\n" ++
    "Container(store, Store)\n\x7d\nPerson(user, User)"

/-- The boundary does not count: both containers stand inside the shop. -/
theorem flattenAll_trees_shop :
    (((sourceLines shop).filterMap declaration?).map Element.name).Nodup ∧
      (Tree.flattenAll 0 (trees shop)).map (fun found => found.1.bare) =
        (sourceLines shop).filterMap declaration? ∧
      (Tree.withParentsAll none (trees shop)).map Nesting.barePair =
        (Nesting.ofLines (sourceLines shop)).pairs ∧
      ((Nesting.ofLines (sourceLines shop)).pairs.map fun (element, around) =>
          (element.name, around.map Element.name)) =
        [("shop", none), ("web", some "shop"), ("store", some "shop"), ("user", none)] := by
  have distinct : (((sourceLines shop).filterMap declaration?).map Element.name).Nodup := by
    decide +kernel
  obtain ⟨ordered, nested⟩ := (flattenAll_trees shop).2 distinct
  exact ⟨distinct, ordered, nested, by decide +kernel⟩

end Drafting.C4
