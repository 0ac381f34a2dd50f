import Drafting.C4.Drawing
import Drafting.Proofs.C4.Places
import Drafting.Proofs.Correspondence

/-!
# The layout of a forest

The elements of a forest are placed in rows, one for each depth. Rows are far enough apart for
the highest boxes, and places in a row for the widest ones.

The main statement is that there is one box for every path in the forest, in the row of its depth
and further right for a later path, and that no two boxes meet, so that what is inside an element
stands below it.
-/

namespace Drafting.C4

namespace Placed

/-- What is placed, and in which row. -/
def entry (placed : Placed) : Element × Nat := (placed.element, placed.depth)

/-- One box stands wholly beside or wholly above or below another one. -/
def Apart (first second : Placed) : Prop :=
  first.x + first.width < second.x ∨ second.x + second.width < first.x ∨
    first.y + first.height < second.y ∨ second.y + second.height < first.y

/-- A box comes before one of a greater depth and before one of the same depth that is at least
a whole place further right. -/
def Before (first second : Placed) : Prop :=
  first.depth < second.depth ∨ (first.depth = second.depth ∧ first.x + 260 ≤ second.x)

/-- A box in the row of its depth that is no larger than the largest ones. -/
structure InRow (placed : Placed) : Prop where
  top : placed.y = 40 + placed.depth * 200
  narrow : placed.width ≤ 220
  low : placed.height ≤ 140

end Placed

/-- No kind has a box larger than a system. -/
theorem sizeOf_le (kind : String) : (sizeOf kind).1 ≤ 220 ∧ (sizeOf kind).2 ≤ 140 := by
  rw [sizeOf]
  split
  · decide
  · split
    · decide
    · split <;> decide

/-- The boxes of a row stand in it, from a column on. -/
theorem inRow_of_mem_placeRow {depth : Nat} {column : Int} {elements : List Element}
    {placed : Placed} (member : placed ∈ placeRow depth column elements) :
    placed.InRow ∧ placed.depth = depth ∧ 40 + column * 260 ≤ placed.x := by
  induction elements generalizing column with
  | nil => contradiction
  | cons element others inductionHypothesis =>
    rcases List.mem_cons.mp member with rfl | later
    · obtain ⟨narrow, low⟩ := sizeOf_le element.kind
      exact ⟨⟨rfl, narrow, low⟩, rfl, Int.le_refl _⟩
    · obtain ⟨inRow, same, right⟩ := inductionHypothesis later
      exact ⟨inRow, same, by omega⟩

/-- In a row, every box has a place of its own width for itself. -/
theorem pairwise_placeRow (depth : Nat) (column : Int) (elements : List Element) :
    (placeRow depth column elements).Pairwise fun first second => first.x + 260 ≤ second.x := by
  induction elements generalizing column with
  | nil => exact .nil
  | cons element others inductionHypothesis =>
    refine List.pairwise_cons.mpr ⟨?_, inductionHypothesis (column + 1)⟩
    intro placed member
    obtain ⟨_, _, right⟩ := inRow_of_mem_placeRow member
    dsimp only
    omega

/-- A row holds its elements with its depth. -/
theorem map_entry_placeRow (depth : Nat) (column : Int) (elements : List Element) :
    (placeRow depth column elements).map Placed.entry = elements.map (·, depth) := by
  induction elements generalizing column with
  | nil => rfl
  | cons element others inductionHypothesis =>
    rw [placeRow, List.map_cons, List.map_cons, inductionHypothesis]
    rfl

/-- The elements of one depth, with it. -/
theorem map_rowAt (elements : List (Element × Nat)) (depth : Nat) :
    (rowAt elements depth).map (·, depth) = elements.filter (·.2 == depth) := by
  rw [rowAt, List.map_map]
  refine (List.map_congr_left (g := id) ?_).trans (List.map_id _)
  rintro ⟨element, own⟩ member
  obtain rfl : own = depth := beq_iff_eq.mp (List.mem_filter.mp member).2
  rfl

/-- Every box stands in a row. -/
theorem inRow_of_mem_layout {trees : List Tree} {placed : Placed}
    (member : placed ∈ layout trees) : placed.InRow := by
  obtain ⟨depth, _, inside⟩ := List.mem_flatMap.mp member
  exact (inRow_of_mem_placeRow inside).1

/-- The boxes come row by row, and each has its place in the row. -/
theorem pairwise_layout (trees : List Tree) : (layout trees).Pairwise Placed.Before := by
  rw [layout, List.pairwise_flatMap]
  constructor
  · intro depth _
    refine (pairwise_placeRow depth 0 _).imp_of_mem ?_
    intro first second inFirst inSecond order
    obtain ⟨_, here, _⟩ := inRow_of_mem_placeRow inFirst
    obtain ⟨_, there, _⟩ := inRow_of_mem_placeRow inSecond
    exact .inr ⟨here.trans there.symm, order⟩
  · refine List.pairwise_lt_range.imp ?_
    intro upper lower order first inFirst second inSecond
    obtain ⟨_, rfl, _⟩ := inRow_of_mem_placeRow inFirst
    obtain ⟨_, rfl, _⟩ := inRow_of_mem_placeRow inSecond
    exact .inl order

/-- A box of a greater depth stands wholly below. -/
theorem Placed.InRow.below {upper lower : Placed} (above : upper.InRow) (below : lower.InRow)
    (deeper : upper.depth < lower.depth) : upper.y + upper.height < lower.y := by
  obtain ⟨top, _, low⟩ := above
  have := below.top
  omega

/-- Boxes that come one before the other are apart. -/
theorem Placed.Before.apart {first second : Placed} (before : first.Before second)
    (firstInRow : first.InRow) (secondInRow : second.InRow) : first.Apart second := by
  rcases before with deeper | ⟨_, right⟩
  · right; right; left
    exact firstInRow.below secondInRow deeper
  · have narrow := firstInRow.narrow
    left
    omega

/-- No two boxes of a layout meet. -/
theorem layout_apart (trees : List Tree) : (layout trees).Pairwise Placed.Apart := by
  refine (pairwise_layout trees).imp_of_mem ?_
  intro first second inFirst inSecond before
  exact before.apart (inRow_of_mem_layout inFirst) (inRow_of_mem_layout inSecond)

/-- The places of a forest, row by row. -/
def rows (trees : List Tree) : List (List Nat × Tree) :=
  (List.range (Tree.flattenAll 0 trees).length).flatMap fun depth =>
    (Tree.placesAll [] 0 trees).filter fun place => place.1.length == depth + 1

/-- The layout holds the elements of the rows, with their depths. -/
theorem map_entry_layout (trees : List Tree) :
    (layout trees).map Placed.entry = (rows trees).map Tree.entryAt := by
  have flat : Tree.flattenAll 0 trees = (Tree.placesAll [] 0 trees).map Tree.entryAt :=
    (Tree.map_entryAt_placesAll [] 0 trees).symm
  have row (depth : Nat) : (Tree.flattenAll 0 trees).filter (·.2 == depth) =
      ((Tree.placesAll [] 0 trees).filter fun place => place.1.length == depth + 1).map
        Tree.entryAt := by
    rw [flat, List.filter_map]
    refine congrArg (List.map Tree.entryAt) (List.filter_congr ?_)
    intro place member
    obtain ⟨number, rest, _, same⟩ := Tree.exists_of_mem_placesAll member
    simp [Tree.entryAt, same]
  rw [layout, rows, List.map_flatMap, List.map_flatMap]
  simp only [map_entry_placeRow, map_rowAt, row]

/-- The rows hold all places. -/
theorem mem_rows {trees : List Tree} {path : List Nat} {tree : Tree} :
    (path, tree) ∈ rows trees ↔ Tree.Stands trees path tree := by
  rw [← Tree.mem_placesAll_iff]
  constructor
  · intro member
    obtain ⟨_, _, inside⟩ := List.mem_flatMap.mp member
    exact (List.mem_filter.mp inside).1
  · intro member
    have count : (Tree.placesAll [] 0 trees).length = (Tree.flattenAll 0 trees).length := by
      rw [← List.length_map Tree.entryAt, Tree.map_entryAt_placesAll]
      rfl
    have bound := Tree.length_le_of_mem_placesAll member
    obtain ⟨number, rest, _, same⟩ := Tree.exists_of_mem_placesAll member
    obtain rfl : path = number :: rest := same
    rw [count, List.length_nil, Nat.zero_add] at bound
    exact List.mem_flatMap.mpr ⟨rest.length, List.mem_range.mpr bound,
      List.mem_filter.mpr ⟨member, beq_self_eq_true _⟩⟩

/-- A path comes before a longer one and before a later one of the same length. -/
def PathBefore (first second : List Nat) : Prop :=
  first.length < second.length ∨ (first.length = second.length ∧ first < second)

/-- No path comes before itself. -/
theorem PathBefore.ne {first second : List Nat} (before : PathBefore first second) :
    first ≠ second := by
  rintro rfl
  rcases before with longer | ⟨_, later⟩
  · exact Nat.lt_irrefl _ longer
  · exact List.lt_irrefl first later

/-- The rows come by increasing length of the paths, and in each the paths increase. -/
theorem pairwise_rows (trees : List Tree) :
    ((rows trees).map Prod.fst).Pairwise PathBefore := by
  have ofRow {depth : Nat} {place : List Nat × Tree}
      (member : place ∈ (Tree.placesAll [] 0 trees).filter fun place =>
        place.1.length == depth + 1) : place.1.length = depth + 1 :=
    beq_iff_eq.mp (List.mem_filter.mp member).2
  rw [List.pairwise_map, rows, List.pairwise_flatMap]
  constructor
  · intro depth _
    refine ((Tree.pairwise_placesAll [] 0 trees).filter _).imp_of_mem ?_
    intro first second inFirst inSecond order
    exact .inr ⟨(ofRow inFirst).trans (ofRow inSecond).symm, order⟩
  · refine List.pairwise_lt_range.imp ?_
    intro upper lower order first inFirst second inSecond
    left
    rw [ofRow inFirst, ofRow inSecond]
    exact Nat.succ_lt_succ order

/-- A box shows the element to which a path leads, in the row of its depth. -/
def Placed.Shows (trees : List Tree) (path : List Nat) (placed : Placed) : Prop :=
  ∃ tree, Tree.Stands trees path tree ∧ placed.element = tree.element ∧
    placed.depth + 1 = path.length

/-- The depth of a box is that of what it shows. -/
theorem Placed.Shows.depth_eq {trees : List Tree} {path : List Nat} {placed : Placed}
    (shows : placed.Shows trees path) : placed.depth + 1 = path.length := by
  obtain ⟨_, _, _, depth⟩ := shows
  exact depth

/-- The boxes of the layout, each with the path to what it shows. -/
theorem exists_boxes (trees : List Tree) :
    ∃ boxes : List (List Nat × Placed), boxes.map Prod.fst = (rows trees).map Prod.fst ∧
      boxes.map Prod.snd = layout trees ∧ ∀ box ∈ boxes, box.2.Shows trees box.1 := by
  obtain ⟨pairs, firsts, seconds, related⟩ :=
    exists_pairs (forall₂_of_map_eq (map_entry_layout trees))
  refine ⟨pairs.map fun pair => (pair.1.1, pair.2), ?_, ?_, ?_⟩
  · rw [← firsts, List.map_map, List.map_map]
    rfl
  · rw [← seconds, List.map_map]
    rfl
  · intro box member
    obtain ⟨⟨⟨path, tree⟩, placed⟩, inside, rfl⟩ := List.mem_map.mp member
    have stands : Tree.Stands trees path tree := by
      rw [← mem_rows, ← firsts]
      exact List.mem_map_of_mem inside
    have same : placed.entry = Tree.entryAt (path, tree) := related _ inside
    have depth : placed.depth = path.length - 1 := congrArg Prod.snd same
    have nonempty := stands.length_pos
    exact ⟨tree, stands, congrArg Prod.fst same, by dsimp only; omega⟩

/-- Boxes, each with a path, lay out a forest: they show all of it, every path has one box, rows
come by increasing depth and go to the right by increasing paths, no two boxes meet, and a box
stands wholly below the one that its path goes on from. -/
structure LaysOut (trees : List Tree) (boxes : List (List Nat × Placed)) : Prop where
  shows : ∀ box ∈ boxes, box.2.Shows trees box.1
  complete : ∀ path tree, Tree.Stands trees path tree → path ∈ boxes.map Prod.fst
  once : (boxes.map Prod.fst).Nodup
  ordered : boxes.Pairwise fun first second =>
    first.2.depth < second.2.depth ∨
      (first.2.depth = second.2.depth ∧ first.1 < second.1 ∧ first.2.x < second.2.x)
  apart : (boxes.map Prod.snd).Pairwise Placed.Apart
  below : ∀ upper ∈ boxes, ∀ lower ∈ boxes, ∀ number, lower.1 = upper.1 ++ [number] →
    upper.2.y + upper.2.height < lower.2.y

/-- The boxes of a layout lay out the forest: every element is placed once, in the row of its
depth, where it stands in the order in which the forest is walked, apart from all others and below
the one around it. -/
theorem layout_of_forest (trees : List Tree) :
    ∃ boxes, boxes.map Prod.snd = layout trees ∧ LaysOut trees boxes := by
  obtain ⟨boxes, paths, drawn, shows⟩ := exists_boxes trees
  have byPath : (boxes.map Prod.fst).Pairwise PathBefore := by
    rw [paths]
    exact pairwise_rows trees
  have byPlace : (boxes.map Prod.snd).Pairwise Placed.Before := by
    rw [drawn]
    exact pairwise_layout trees
  have inRow : ∀ box ∈ boxes, box.2.InRow := by
    intro box member
    apply inRow_of_mem_layout
    rw [← drawn]
    exact List.mem_map_of_mem member
  refine ⟨boxes, drawn, shows, ?_, byPath.imp PathBefore.ne, ?_, ?_, ?_⟩
  · intro path tree stands
    rw [paths]
    exact List.mem_map_of_mem (mem_rows.mpr stands)
  · refine ((List.pairwise_map.mp byPath).and (List.pairwise_map.mp byPlace)).imp_of_mem ?_
    rintro first second inFirst inSecond ⟨path, deeper | ⟨same, right⟩⟩
    · exact .inl deeper
    · have here := (shows first inFirst).depth_eq
      have there := (shows second inSecond).depth_eq
      rcases path with longer | ⟨_, later⟩
      · omega
      · exact .inr ⟨same, later, by omega⟩
  · rw [drawn]
    exact layout_apart trees
  · intro upper inUpper lower inLower number inside
    have above := (shows upper inUpper).depth_eq
    have below := (shows lower inLower).depth_eq
    rw [inside, List.length_append, List.length_singleton] at below
    exact (inRow upper inUpper).below (inRow lower inLower) (by omega)

/-- A store inside a shop, and a user beside it. -/
example :
    (layout
      [.node { name := "shop", label := "Shop", kind := "System" }
          [.node { name := "store", label := "Store", kind := "Container" } []],
        .node { name := "user", label := "User", kind := "Person" } []]).map
      (fun placed => (placed.element.name, placed.depth, placed.x, placed.y)) =
      [("shop", 0, 40, 40), ("user", 0, 300, 40), ("store", 1, 40, 240)] := by
  decide +kernel

end Drafting.C4
