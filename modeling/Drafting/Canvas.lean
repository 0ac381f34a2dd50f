import Drafting.Cell.Basic

/-!
# Canvas

A canvas collects the cells of one drawing. It issues their identifiers, which
are the stem of the drawing followed by a hyphen and consecutive numbers, and it
remembers under which key a box was placed, so that links can be drawn between
keys. The number two comes first, since the root and the layer have the first
two.

The main statements say what each operation issues, adds and remembers, and that
a link to a key that was never placed changes nothing.
-/

namespace Drafting

/-- Boxes are remembered under names or under numbers. -/
inductive Key where
  | name (text : String)
  | number (value : Int)
  deriving DecidableEq, Repr

/-- A remembered box: its identifier and the point that stands for it. -/
structure Placement where
  id : String
  anchor : Point
  deriving DecidableEq, Repr

/-- A drawing in progress. -/
structure Canvas where
  stem : String
  next : Nat := 2
  placements : List (Key × Placement) := []
  cells : List Cell := []
  deriving DecidableEq, Repr

namespace Canvas

/-- A canvas on which nothing was drawn. -/
def blank (stem : String) : Canvas := { stem }

/-- The identifier with a given number. -/
def idOf (stem : String) (number : Nat) : String :=
  stem ++ "-" ++ String.ofList (Number.naturalText number)

/-- Issues the next identifier. -/
def issue (canvas : Canvas) : String × Canvas :=
  (idOf canvas.stem canvas.next, { canvas with next := canvas.next + 1 })

/-- Remembers a box under a key. A key keeps the position of its first use, and
the last box under it counts. -/
def remember (key : Key) (placement : Placement) :
    List (Key × Placement) → List (Key × Placement)
  | [] => [(key, placement)]
  | (other, old) :: rest =>
    if other = key then (key, placement) :: rest else (other, old) :: remember key placement rest

/-- The box that is remembered under a key. -/
def placement? (canvas : Canvas) (key : Key) : Option Placement := canvas.placements.lookup key

/-- Draws a box. If a key is given, the box is remembered under it with the given
anchor, or with its corner if there is none. -/
def vertex (canvas : Canvas) (value style : String) (place : Box) (parent : String)
    (key : Option Key) (anchor : Option Point) : String × Canvas :=
  let (id, issued) := canvas.issue
  (id, { issued with
    cells := issued.cells ++ [⟨id, value, style, parent, .box place⟩]
    placements :=
      match key with
      | some key => remember key ⟨id, anchor.getD place.corner⟩ issued.placements
      | none => issued.placements })

/-- Draws a link between two remembered boxes. Where one of them was never
placed, nothing is drawn and no identifier is issued. -/
def edge (canvas : Canvas) (value style : String) (source target : Key) :
    Option String × Canvas :=
  match canvas.placement? source, canvas.placement? target with
  | some start, some stop =>
    let (id, issued) := canvas.issue
    (some id, { issued with
      cells := issued.cells ++ [⟨id, value, style, Cell.layerId, .link start.id stop.id⟩] })
  | _, _ => (none, canvas)

/-- Draws a line between two points. -/
def line (canvas : Canvas) (value style : String) (start stop : Point) : String × Canvas :=
  let (id, issued) := canvas.issue
  (id, { issued with
    cells := issued.cells ++ [⟨id, value, style, Cell.layerId, .line start stop⟩] })

/-- After a box is remembered under a key, it is what the key stands for. -/
theorem lookup_remember_same (key : Key) (placement : Placement)
    (placements : List (Key × Placement)) :
    (remember key placement placements).lookup key = some placement := by
  induction placements with
  | nil => simp [remember]
  | cons pair rest inductionHypothesis =>
    obtain ⟨other, old⟩ := pair
    rw [remember]
    split
    · simp
    · next different =>
      have apart : (key == other) = false := by simpa using fun same => different (Eq.symm same)
      simp [List.lookup_cons, apart, inductionHypothesis]

/-- Remembering a box leaves what other keys stand for as it was. -/
theorem lookup_remember_other {key other : Key} (different : other ≠ key) (placement : Placement)
    (placements : List (Key × Placement)) :
    (remember key placement placements).lookup other = placements.lookup other := by
  have apart : (other == key) = false := by simpa using different
  induction placements with
  | nil => simp [remember, List.lookup_cons, apart]
  | cons pair rest inductionHypothesis =>
    obtain ⟨present, old⟩ := pair
    rw [remember]
    split
    · next same =>
      subst same
      simp [List.lookup_cons, apart]
    · cases present_other : other == present <;>
        simp [List.lookup_cons, present_other, inductionHypothesis]

/-- A link to a key that was never placed changes nothing. -/
theorem edge_of_missing (canvas : Canvas) (value style : String) (source target : Key)
    (missing : canvas.placement? source = none ∨ canvas.placement? target = none) :
    canvas.edge value style source target = (none, canvas) := by
  rcases missing with absent | absent
  · simp [edge, absent]
  · cases start : canvas.placement? source <;> simp [edge, start, absent]

end Canvas

end Drafting
