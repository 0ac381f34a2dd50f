/-!
# Grids

Boxes of equal rank are placed from left to right in rows of a fixed number of
columns. How far the next row lies below is decided by the last box of a row.
-/

namespace Drafting

/-- A grid: the columns of a row, where the first begins, and their distance. -/
structure Grid where
  columns : Nat
  left : Int
  spacing : Int
  deriving DecidableEq, Repr

namespace Grid

/-- The corner of the next box, and how many were placed before it. -/
structure Cursor where
  x : Int
  y : Int
  filled : Nat
  deriving DecidableEq, Repr

/-- The corner of the first box. -/
def start (grid : Grid) (top : Int) : Cursor := ⟨grid.left, top, 0⟩

/-- The corner after one more box. A full row is followed by a new one, `drop`
below it. -/
def advance (grid : Grid) (cursor : Cursor) (drop : Int) : Cursor :=
  if (cursor.filled + 1) % grid.columns = 0 then
    ⟨grid.left, cursor.y + drop, cursor.filled + 1⟩
  else ⟨cursor.x + grid.spacing, cursor.y, cursor.filled + 1⟩

variable {α : Type}

/-- The items with their corners, where `drop` tells how far below an item that
ends its row the next row begins. -/
def spread (grid : Grid) (drop : α → Int) (cursor : Cursor) : List α → List (α × Cursor)
  | [] => []
  | item :: rest => (item, cursor) :: grid.spread drop (grid.advance cursor (drop item)) rest

/-- Spreading keeps the items and their order. -/
theorem spread_items (grid : Grid) (drop : α → Int) (cursor : Cursor) (items : List α) :
    (grid.spread drop cursor items).map Prod.fst = items := by
  induction items generalizing cursor with
  | nil => rfl
  | cons item rest inductionHypothesis => simp [spread, inductionHypothesis]

end Grid

/-- The width of a box around a label: so much for each character and for the
margins, and not less than a minimum. -/
def textWidth (text : String) (minimum : Int) (perCharacter : Int := 8) (padding : Int := 20) :
    Int :=
  max minimum (text.length * perCharacter + padding)

end Drafting
