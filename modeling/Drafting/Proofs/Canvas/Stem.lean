import Mathlib.Data.List.Forall2
import Drafting.Proofs.Canvas.Numbering

/-!
# Drawings under two stems

The stem of the identifiers is chosen anew for every document, so nothing but identifiers may
depend on it. Here the same figures are drawn twice, under two stems, and the two canvases are
followed side by side. At every moment they agree up to the stem before each number. That is
an invariant of the pair, kept by every operation: an identifier that is handed back as the
parent of rows, or found again as the end of a link, has the same number on both sides.

Texts that look like identifiers do no harm. Labels and keys are never compared with
identifiers, and the layer holds no hyphen, so no stem makes it the name of a box.

The main statement is that the cells of a diagram under two stems correspond one by one, and
that a diagram which cannot be written under one stem cannot be written under the other.
-/

namespace Drafting

namespace Cell

/-- Two identifiers have the same number behind two stems. -/
def SameNumber (first second left right : String) : Prop :=
  ∃ number, left = Canvas.idOf first number ∧ right = Canvas.idOf second number

/-- Two cells lie on the layer, or in boxes with the same number. -/
def SameParent (first second left right : String) : Prop :=
  (left = layerId ∧ right = layerId) ∨ SameNumber first second left right

/-- Boxes and lines have the same place, and links join boxes with the same numbers. -/
inductive Shape.Corresponds (first second : String) : Shape → Shape → Prop
  | box (place : Box) : Corresponds first second (.box place) (.box place)
  | link {source target otherSource otherTarget : String}
      (sources : SameNumber first second source otherSource)
      (targets : SameNumber first second target otherTarget) :
      Corresponds first second (.link source target) (.link otherSource otherTarget)
  | line (start stop : Point) : Corresponds first second (.line start stop) (.line start stop)

/-- Two cells differ in nothing but the stem of the identifiers in them. -/
structure Corresponds (first second : String) (left right : Cell) : Prop where
  id : SameNumber first second left.id right.id
  value : left.value = right.value
  style : left.style = right.style
  parent : SameParent first second left.parent right.parent
  shape : left.shape.Corresponds first second right.shape

variable {first second : String}

/-- Corresponding cells have the same coordinates, so both can be written or neither. -/
theorem Corresponds.fits_eq {left right : Cell} (same : left.Corresponds first second right) :
    left.fits = right.fits := by
  have coordinates : left.coordinates = right.coordinates := by
    have shapes := same.shape
    rw [Cell.coordinates, Cell.coordinates]
    generalize left.shape = here at shapes
    generalize right.shape = there at shapes
    cases shapes with
    | box place => rfl
    | link sources targets => rfl
    | line start stop => rfl
  rw [fits, fits, coordinates]

end Cell

namespace Canvas

open Cell

variable {first second : String} {left right : Canvas}

/-- Two remembered boxes have the same key, the same anchor and the same number. -/
def RememberedAlike (first second : String) (own other : Key × Placement) : Prop :=
  own.1 = other.1 ∧ own.2.anchor = other.2.anchor ∧
    SameNumber first second own.2.id other.2.id

/-- Two canvases differ in nothing but their stems. -/
structure Corresponds (first second : String) (left right : Canvas) : Prop where
  leftStem : left.stem = first
  rightStem : right.stem = second
  next : left.next = right.next
  placements : List.Forall₂ (RememberedAlike first second) left.placements right.placements
  cells : List.Forall₂ (Cell.Corresponds first second) left.cells right.cells

/-- Blank canvases differ in nothing else. -/
theorem blank_corresponds (first second : String) :
    Corresponds first second (blank first) (blank second) where
  leftStem := rfl
  rightStem := rfl
  next := rfl
  placements := .nil
  cells := .nil

/-- Both canvases issue the same number. -/
theorem Corresponds.issued (same : Corresponds first second left right) :
    SameNumber first second (idOf left.stem left.next) (idOf right.stem right.next) :=
  ⟨left.next, by rw [same.leftStem], by rw [same.rightStem, same.next]⟩

/-- Remembering a box on both sides keeps what is remembered alike. -/
theorem remember_alike {own other : List (Key × Placement)} (key : Key)
    {placement otherPlacement : Placement}
    (alike : RememberedAlike first second (key, placement) (key, otherPlacement))
    (same : List.Forall₂ (RememberedAlike first second) own other) :
    List.Forall₂ (RememberedAlike first second) (remember key placement own)
      (remember key otherPlacement other) := by
  induction same with
  | nil => exact .cons alike .nil
  | @cons pair otherPair rest otherRest head tail inductionHypothesis =>
    obtain ⟨present, old⟩ := pair
    obtain ⟨otherPresent, otherOld⟩ := otherPair
    obtain rfl : present = otherPresent := head.1
    rw [remember, remember]
    split
    · exact .cons alike tail
    · exact .cons head inductionHypothesis

/-- A key stands for boxes with the same number on both sides, or for none on either. -/
theorem lookup_alike {own other : List (Key × Placement)}
    (same : List.Forall₂ (RememberedAlike first second) own other) (key : Key) :
    Option.Rel (fun placement otherPlacement =>
      SameNumber first second placement.id otherPlacement.id) (own.lookup key)
      (other.lookup key) := by
  induction same with
  | nil => exact .none
  | @cons pair otherPair rest otherRest head tail inductionHypothesis =>
    obtain ⟨present, old⟩ := pair
    obtain ⟨otherPresent, otherOld⟩ := otherPair
    obtain ⟨sameKey, _, sameNumber⟩ := head
    obtain rfl : present = otherPresent := sameKey
    rw [List.lookup_cons, List.lookup_cons]
    split
    · exact .some sameNumber
    · exact inductionHypothesis

/-- Adding corresponding cells under the issued identifiers keeps canvases alike. Every
operation that draws does so in this way; they differ in what they remember. -/
theorem Corresponds.extend (same : Corresponds first second left right) {cell other : Cell}
    (alike : cell.Corresponds first second other) {remembered otherRemembered}
    (placements : List.Forall₂ (RememberedAlike first second) remembered otherRemembered) :
    Corresponds first second ⟨left.stem, left.next + 1, remembered, left.cells ++ [cell]⟩
      ⟨right.stem, right.next + 1, otherRemembered, right.cells ++ [other]⟩ where
  leftStem := same.leftStem
  rightStem := same.rightStem
  next := congrArg (· + 1) same.next
  placements := placements
  cells := List.rel_append same.cells (.cons alike .nil)

/-- What is drawn on the layer with the same label, style and shape corresponds. -/
theorem Corresponds.onLayer (same : Corresponds first second left right) (value style : String)
    {shape other : Shape} (alike : shape.Corresponds first second other) :
    Cell.Corresponds first second
      ⟨idOf left.stem left.next, value, style, layerId, shape⟩
      ⟨idOf right.stem right.next, value, style, layerId, other⟩ :=
  ⟨same.issued, rfl, rfl, .inl ⟨rfl, rfl⟩, alike⟩

/-- A box drawn on both sides has the same number there, which can be handed on. -/
theorem Corresponds.vertex (same : Corresponds first second left right) (value style : String)
    (place : Box) {parent otherParent : String}
    (inside : SameParent first second parent otherParent) (key : Option Key)
    (anchor : Option Point) :
    SameNumber first second (left.vertex value style place parent key anchor).1
        (right.vertex value style place otherParent key anchor).1 ∧
      Corresponds first second (left.vertex value style place parent key anchor).2
        (right.vertex value style place otherParent key anchor).2 := by
  have cells : Cell.Corresponds first second
      ⟨idOf left.stem left.next, value, style, parent, .box place⟩
      ⟨idOf right.stem right.next, value, style, otherParent, .box place⟩ :=
    ⟨same.issued, rfl, rfl, inside, .box place⟩
  refine ⟨same.issued, same.extend cells ?_⟩
  cases key with
  | none => exact same.placements
  | some key => exact remember_alike key ⟨rfl, rfl, same.issued⟩ same.placements

/-- A link is drawn on both sides or on neither, since its keys stand for boxes on both sides
or on neither. -/
theorem Corresponds.edge (same : Corresponds first second left right) (value style : String)
    (source target : Key) :
    Corresponds first second (left.edge value style source target).2
      (right.edge value style source target).2 := by
  have sources := lookup_alike same.placements source
  have targets := lookup_alike same.placements target
  simp only [Canvas.edge, placement?]
  generalize left.placements.lookup source = start at sources
  generalize right.placements.lookup source = otherStart at sources
  generalize left.placements.lookup target = stop at targets
  generalize right.placements.lookup target = otherStop at targets
  cases sources with
  | none => exact same
  | some sameStart =>
    cases targets with
    | none => exact same
    | some sameStop =>
      exact same.extend (same.onLayer value style (.link sameStart sameStop)) same.placements

/-- Lines do not depend on anything that was drawn before. -/
theorem Corresponds.line (same : Corresponds first second left right) (value style : String)
    (start stop : Point) :
    Corresponds first second (left.line value style start stop).2
      (right.line value style start stop).2 :=
  same.extend (same.onLayer value style (.line start stop)) same.placements

/-- Rows are drawn in boxes with the same number. -/
theorem Corresponds.drawRows (same : Corresponds first second left right) {parent otherParent}
    (inside : SameNumber first second parent otherParent) (rows : List Row) :
    Corresponds first second (left.drawRows parent rows) (right.drawRows otherParent rows) := by
  induction rows generalizing left right with
  | nil => exact same
  | cons row others inductionHypothesis =>
    obtain ⟨_, drawn⟩ := same.vertex row.value row.style row.place (.inr inside) none none
    exact inductionHypothesis drawn

/-- Every figure keeps canvases alike. -/
theorem Corresponds.draw (same : Corresponds first second left right) (figure : Figure) :
    Corresponds first second (left.draw figure) (right.draw figure) := by
  cases figure with
  | node key value style place anchor rows =>
    obtain ⟨box, drawn⟩ := same.vertex value style place (.inl ⟨rfl, rfl⟩) key anchor
    exact drawn.drawRows box rows
  | link value style source target => exact same.edge value style source target
  | line value style start stop => exact same.line value style start stop

/-- So does a whole drawing. -/
theorem Corresponds.drawAll (same : Corresponds first second left right)
    (figures : List Figure) :
    Corresponds first second (left.drawAll figures) (right.drawAll figures) := by
  induction figures generalizing left right with
  | nil => exact same
  | cons figure others inductionHypothesis => exact inductionHypothesis (same.draw figure)

end Canvas

/-- Whatever figures are drawn, their cells under two stems correspond. -/
theorem cellsOf_corresponds (first second : String) (figures : List Figure) :
    List.Forall₂ (Cell.Corresponds first second) (cellsOf first figures)
      (cellsOf second figures) :=
  ((Canvas.blank_corresponds first second).drawAll figures).cells

/-- Corresponding cells can all be written, or not all of them on either side. -/
theorem Cell.all_fits_eq {first second : String} {left right : List Cell}
    (same : List.Forall₂ (Cell.Corresponds first second) left right) :
    left.all Cell.fits = right.all Cell.fits := by
  induction same with
  | nil => rfl
  | cons head tail inductionHypothesis =>
    rw [List.all_cons, List.all_cons, head.fits_eq, inductionHypothesis]

/-- The cells of a diagram of any dialect under two stems are as many and stand in the same
order. They agree in label, style, kind and place, and in which box they lie and which boxes
they link, where an identifier is known by the number behind its stem. Whether the diagram can
be written does not depend on the stem, either. -/
theorem cells_correspond (first second : String) (diagram : Diagram) :
    List.Forall₂ (Cell.Corresponds first second) (diagram.cells first) (diagram.cells second) ∧
      ∀ error, diagram.markup first = .error error ↔ diagram.markup second = .error error := by
  have same := cellsOf_corresponds first second diagram.figures
  refine ⟨same, ?_⟩
  intro error
  have fits : (diagram.cells first).all Cell.fits = (diagram.cells second).all Cell.fits :=
    Cell.all_fits_eq same
  rw [Diagram.markup, Diagram.markup, markupOf, markupOf, fits]
  split <;> simp

end Drafting
