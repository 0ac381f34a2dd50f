import Mathlib.Algebra.Order.Group.Nat
import Mathlib.Algebra.Order.Group.Int
import Mathlib.Data.Nat.ModEq
import Drafting.Grid
import Drafting.Proofs.Canvas.Frames

/-!
# Places on a grid

Items are placed on a grid one after the other, and each is placed where the cursor stands. The
cursor is known without going through the items before it: an item stands in the column and in the
row that its position gives, and a row lies below the one before it by what the item that ends
that row asks for. This is kept by every step of the cursor, so it holds of every item.

The main statement is that rectangles which fit into the columns of a grid are apart exactly if
each of them with another one below it is less high than the item at the end of its row asks for.
-/

namespace Drafting.Grid

variable {α : Type}

/-- The position of the item that ends the row of a given position. -/
def rowEnd (grid : Grid) (index : Nat) : Nat :=
  index / grid.columns * grid.columns + (grid.columns - 1)

/-- The top of a row, counted from zero: below the one before it by what its last item asks
for. -/
def rowTop (grid : Grid) (drop : α → Int) (top : Int) (items : List α) : Nat → Int
  | 0 => top
  | row + 1 =>
    grid.rowTop drop top items row +
      (items[row * grid.columns + (grid.columns - 1)]?).elim 0 drop

/-- Where the item at a given position stands. -/
def cursorAt (grid : Grid) (drop : α → Int) (top : Int) (items : List α) (index : Nat) : Cursor :=
  ⟨grid.left + ↑(index % grid.columns) * grid.spacing,
    grid.rowTop drop top items (index / grid.columns), index⟩

variable (grid : Grid) (drop : α → Int) (top : Int)

/-- The first item stands at the beginning. -/
theorem cursorAt_zero (items : List α) : grid.cursorAt drop top items 0 = grid.start top := by
  simp [cursorAt, start, rowTop]

/-- The row after that of a position is placed by the item at its end. -/
theorem rowTop_succ {items : List α} {index : Nat} {last : α}
    (ends : items[grid.rowEnd index]? = some last) :
    grid.rowTop drop top items (index / grid.columns + 1) =
      grid.rowTop drop top items (index / grid.columns) + drop last := by
  have ends : items[index / grid.columns * grid.columns + (grid.columns - 1)]? = some last := ends
  rw [rowTop, ends, Option.elim_some]

/-- Where every row lies equally far below the one before it, the top of a row that is reached is
known from its number. -/
theorem rowTop_constant (columns : 0 < grid.columns) (step : Int) {items : List α} {row : Nat}
    (reached : row * grid.columns ≤ items.length) :
    grid.rowTop (fun _ => step) top items row = top + row * step := by
  induction row with
  | zero => simp [rowTop]
  | succ before inductionHypothesis =>
    rw [Nat.succ_mul] at reached
    have inside : before * grid.columns + (grid.columns - 1) < items.length := by omega
    rw [rowTop, inductionHypothesis (by omega), List.getElem?_eq_getElem inside,
      Option.elim_some, Nat.cast_succ, Int.add_mul, Int.one_mul, Int.add_assoc]

/-- An item before a new row ends its row, and the next position is the first of the next row. -/
theorem next_of_full {index : Nat} (full : (index + 1) % grid.columns = 0) :
    grid.rowEnd index = index ∧ (index + 1) / grid.columns = index / grid.columns + 1 := by
  have row : (index + 1) / grid.columns = index / grid.columns + 1 :=
    Nat.succ_div_of_dvd (Nat.dvd_of_mod_eq_zero full)
  have filled := Nat.div_add_mod (index + 1) grid.columns
  rw [full, row, Nat.mul_succ, Nat.mul_comm] at filled
  refine ⟨?_, row⟩
  rw [rowEnd]
  rcases Nat.eq_zero_or_pos grid.columns with none | some
  · rw [none, Nat.mod_zero] at full
    contradiction
  · omega

/-- Elsewhere, the next position is in the next column of the same row. -/
theorem next_of_not_full {index : Nat} (room : (index + 1) % grid.columns ≠ 0) :
    (index + 1) % grid.columns = index % grid.columns + 1 ∧
      (index + 1) / grid.columns = index / grid.columns := by
  have row : (index + 1) / grid.columns = index / grid.columns :=
    Nat.succ_div_of_not_dvd fun divides => room (Nat.mod_eq_zero_of_dvd divides)
  have before := Nat.div_add_mod index grid.columns
  have behind := Nat.div_add_mod (index + 1) grid.columns
  rw [row] at behind
  exact ⟨by omega, row⟩

/-- A later position in the same column is at least a whole row further. -/
theorem below_of_column_eq {first second : Nat} (order : first < second)
    (same : first % grid.columns = second % grid.columns) :
    first / grid.columns < second / grid.columns ∧ first + grid.columns ≤ second := by
  have firstParts := Nat.div_add_mod first grid.columns
  have secondParts := Nat.div_add_mod second grid.columns
  have rows : first / grid.columns < second / grid.columns := by
    by_contra notBelow
    have := Nat.mul_le_mul_left grid.columns (not_lt.mp notBelow)
    omega
  have next := Nat.mul_le_mul_left grid.columns (Nat.succ_le_of_lt rows)
  rw [Nat.mul_succ] at next
  exact ⟨rows, by omega⟩

/-- A row ends before the position that is a whole row further. -/
theorem rowEnd_lt (columns : 0 < grid.columns) (index : Nat) :
    grid.rowEnd index < index + grid.columns := by
  have parts := Nat.div_add_mod index grid.columns
  rw [rowEnd, Nat.mul_comm]
  omega

/-- After an item, the cursor stands where the next one belongs. -/
theorem advance_cursorAt {items : List α} {index : Nat} {item : α}
    (here : items[index]? = some item) :
    grid.advance (grid.cursorAt drop top items index) (drop item) =
      grid.cursorAt drop top items (index + 1) := by
  by_cases full : (index + 1) % grid.columns = 0
  · obtain ⟨own, row⟩ := grid.next_of_full full
    have ends : items[grid.rowEnd index]? = some item := own.symm ▸ here
    simp [advance, cursorAt, full, row, grid.rowTop_succ drop top ends]
  · obtain ⟨column, row⟩ := grid.next_of_not_full full
    simp [advance, cursorAt, column, row, Int.add_mul, Int.add_assoc]

/-- The items behind others stand where their positions in the whole list tell. -/
theorem spread_behind (before rest : List α) :
    grid.spread drop (grid.cursorAt drop top (before ++ rest) before.length) rest =
      rest.mapIdx fun index item =>
        (item, grid.cursorAt drop top (before ++ rest) (before.length + index)) := by
  induction rest generalizing before with
  | nil => rfl
  | cons item others inductionHypothesis =>
    have here : (before ++ item :: others)[before.length]? = some item := by simp
    have later := inductionHypothesis (before ++ [item])
    simp only [List.append_assoc, List.singleton_append, List.length_append,
      List.length_singleton] at later
    rw [spread, grid.advance_cursorAt drop top here, later, List.mapIdx_cons]
    simp only [Nat.add_zero, Nat.add_assoc, Nat.add_comm 1]

/-- Every item stands where its position tells. -/
theorem spread_start (items : List α) :
    grid.spread drop (grid.start top) items =
      items.mapIdx fun index item => (item, grid.cursorAt drop top items index) := by
  have whole := grid.spread_behind drop top [] items
  simpa only [List.nil_append, List.length_nil, Nat.zero_add, cursorAt_zero] using whole

/-- The rectangle of an item of a given size that stands where its position tells. -/
def frameAt (grid : Grid) (width height drop : α → Int) (top : Int) (items : List α)
    (index : Nat) (item : α) : Box :=
  .ofInt (grid.left + ↑(index % grid.columns) * grid.spacing)
    (grid.rowTop drop top items (index / grid.columns)) (width item) (height item)

/-- Where the figure of every item is a rectangle of its size, and no other figure is one, the
rectangles stand where the positions of the items tell. -/
theorem frames_spread {width height : α → Int} (figure : α → Int → Int → Figure)
    (framed : ∀ item x y,
      (figure item x y).frame? = some (.ofInt x y (width item) (height item)))
    {others : List Figure} (unframed : ∀ other ∈ others, other.frame? = none) (items : List α) :
    ((grid.spread drop (grid.start top) items).map
        (fun pair => figure pair.1 pair.2.x pair.2.y) ++ others).filterMap Figure.frame? =
      items.mapIdx (grid.frameAt width height drop top items) := by
  have drawn : (Figure.frame? ∘ fun pair : α × Cursor => figure pair.1 pair.2.x pair.2.y) =
      fun pair => some (Box.ofInt pair.2.x pair.2.y (width pair.1) (height pair.1)) :=
    funext fun pair => framed pair.1 pair.2.x pair.2.y
  rw [List.filterMap_append, List.filterMap_eq_nil_iff.mpr unframed, List.append_nil,
    List.filterMap_map, drawn, List.filterMap_eq_map', spread_start]
  refine List.ext_getElem? ?_
  intro index
  rw [List.getElem?_map, List.getElem?_mapIdx, List.getElem?_mapIdx, Option.map_map]
  rfl

/-- The rectangles of items are as high as the items. -/
theorem map_height_frameAt (width height : α → Int) (items : List α) :
    (items.mapIdx (grid.frameAt width height drop top items)).map Box.height =
      items.map fun item => (height item : Rat) := by
  refine List.ext_getElem? ?_
  intro index
  rw [List.getElem?_map, List.getElem?_mapIdx, List.getElem?_map, Option.map_map]
  rfl

/-- Rectangles fit into the columns of a grid, and no row begins above the one before it. -/
structure Fits (grid : Grid) (width height drop : α → Int) : Prop where
  columns : 0 < grid.columns
  sizedWidth : ∀ item, 0 ≤ width item
  sizedHeight : ∀ item, 0 ≤ height item
  narrow : ∀ item, width item < grid.spacing
  downwards : ∀ item, 0 ≤ drop item

namespace Fits

variable {grid drop} {width height : α → Int} {items : List α} {first second : Nat}

/-- Rows come one below the other. -/
theorem rowTop_mono (fits : grid.Fits width height drop) (items : List α) {upper lower : Nat}
    (order : upper ≤ lower) :
    grid.rowTop drop top items upper ≤ grid.rowTop drop top items lower := by
  refine monotone_nat_of_le_succ ?_ order
  intro row
  rw [rowTop]
  cases items[row * grid.columns + (grid.columns - 1)]? with
  | none => simp
  | some last =>
    have := fits.downwards last
    simpa using this

/-- A rectangle ends before the next column begins. -/
theorem beside (fits : grid.Fits width height drop) (item : α) {column other : Nat}
    (order : column < other) :
    grid.left + column * grid.spacing + width item < grid.left + other * grid.spacing := by
  have narrow := fits.narrow item
  have positive : 0 ≤ grid.spacing := (fits.sizedWidth item).trans narrow.le
  have step : ((column + 1 : Nat) : Int) * grid.spacing ≤ other * grid.spacing :=
    Int.mul_le_mul_of_nonneg_right (Int.ofNat_le.mpr order) positive
  rw [Nat.cast_succ, Int.add_mul, Int.one_mul] at step
  omega

/-- Rectangles in different columns are apart. -/
theorem apart_of_column_ne (fits : grid.Fits width height drop) (upper lower : α)
    (different : first % grid.columns ≠ second % grid.columns) :
    (grid.frameAt width height drop top items first upper).Apart
      (grid.frameAt width height drop top items second lower) := by
  refine (Box.apart_ofInt_iff (fits.sizedWidth upper) (fits.sizedHeight upper)
    (fits.sizedWidth lower) (fits.sizedHeight lower)).mpr ?_
  rcases Nat.lt_or_gt_of_ne different with before | behind
  · exact .inl (fits.beside upper before)
  · exact .inr (.inl (fits.beside lower behind))

/-- In one column, a rectangle is apart from one in a later row exactly if it ends above it. -/
theorem apart_iff_of_column_eq (fits : grid.Fits width height drop) (upper lower : α)
    (same : first % grid.columns = second % grid.columns)
    (order : first / grid.columns ≤ second / grid.columns) :
    (grid.frameAt width height drop top items first upper).Apart
        (grid.frameAt width height drop top items second lower) ↔
      grid.rowTop drop top items (first / grid.columns) + height upper <
        grid.rowTop drop top items (second / grid.columns) := by
  have below := fits.rowTop_mono top items order
  have upperWidth := fits.sizedWidth upper
  have lowerWidth := fits.sizedWidth lower
  have lowerHeight := fits.sizedHeight lower
  refine (Box.apart_ofInt_iff upperWidth (fits.sizedHeight upper) lowerWidth lowerHeight).trans ?_
  rw [same]
  constructor
  · rintro (right | left | above | under) <;> omega
  · exact fun above => .inr (.inr (.inl above))

/-- Rectangles on a grid are apart exactly if each of them with another one below it in the next
row is less high than the item that ends its row asks for. What other items of a row ask for does
not count. Rectangles further below need no condition, since rows come one below the other. -/
theorem pairwise_apart_iff (fits : grid.Fits width height drop) :
    (items.mapIdx (grid.frameAt width height drop top items)).Pairwise Box.Apart ↔
      ∀ index upper last, items[index]? = some upper → items[grid.rowEnd index]? = some last →
        index + grid.columns < items.length → height upper < drop last := by
  have columns := fits.columns
  simp only [List.pairwise_iff_getElem, List.length_mapIdx, List.getElem_mapIdx]
  constructor
  · intro apart index upper last here ends inside
    obtain ⟨present, rfl⟩ := List.getElem?_eq_some_iff.mp here
    have clear := apart index (index + grid.columns) present inside (by omega)
    have row : (index + grid.columns) / grid.columns = index / grid.columns + 1 :=
      Nat.add_div_right index columns
    rw [fits.apart_iff_of_column_eq top _ _ (Nat.add_mod_right index _).symm (by omega), row,
      grid.rowTop_succ drop top ends] at clear
    omega
  · intro low first second firstInside secondInside order
    by_cases same : first % grid.columns = second % grid.columns
    · obtain ⟨rows, further⟩ := grid.below_of_column_eq order same
      have inside : grid.rowEnd first < items.length :=
        (grid.rowEnd_lt columns first).trans (further.trans_lt secondInside)
      have ends := List.getElem?_eq_getElem inside
      have clear := low first _ _ (List.getElem?_eq_getElem firstInside) ends
        (further.trans_lt secondInside)
      have below := fits.rowTop_mono top items (Nat.succ_le_of_lt rows)
      rw [Nat.succ_eq_add_one, grid.rowTop_succ drop top ends] at below
      refine (fits.apart_iff_of_column_eq top _ _ same rows.le).mpr ?_
      omega
    · exact fits.apart_of_column_ne top _ _ same

end Fits

end Drafting.Grid
