import Drafting.C4.Drawing
import Drafting.Diagram.Drawing
import Drafting.Proofs.Split

/-!
# The numbering of drawn cells

A canvas numbers its cells in the order in which they are drawn, and a cell
refers only to boxes that stand before it: it lies on the layer or inside an
earlier box, and a link connects two earlier boxes. This is an invariant of the
canvas, kept by every figure, so it holds whatever a layout puts on the page;
names that occur twice or nowhere cannot break it.

The main statement is that every diagram and every architecture drawing has
cells numbered from two upwards without gaps.
-/

namespace Drafting

namespace Cell

/-- Whether a cell is a box. Only boxes contain cells or are linked. -/
def isBox (cell : Cell) : Bool :=
  match cell.shape with
  | .box _ => true
  | _ => false

/-- An identifier is that of a box among some cells. -/
def NamesBox (cells : List Cell) (id : String) : Prop :=
  ∃ cell ∈ cells, cell.isBox = true ∧ cell.id = id

/-- A cell refers only to the layer and to boxes among the earlier cells. -/
structure RefersBack (earlier : List Cell) (cell : Cell) : Prop where
  parent : cell.parent = layerId ∨ NamesBox earlier cell.parent
  ends : ∀ source target, cell.shape = .link source target →
    NamesBox earlier source ∧ NamesBox earlier target

/-- Cells are numbered from two upwards behind a common stem, their identifiers
are distinct from each other and from the two reserved ones, and each cell refers
only to what stands before it. -/
structure Numbered (stem : String) (cells : List Cell) : Prop where
  ids : cells.map Cell.id =
    (List.range' 2 cells.length).map fun number => stem ++ "-" ++ toString number
  distinct : (cells.map Cell.id).Nodup
  notRoot : rootId ∉ cells.map Cell.id
  notLayer : layerId ∉ cells.map Cell.id
  references : ∀ earlier cell later, cells = earlier ++ cell :: later → cell.RefersBack earlier

/-- A box that is named among some cells is named among more of them. -/
theorem NamesBox.append {cells : List Cell} {id : String} (named : NamesBox cells id)
    (others : List Cell) : NamesBox (cells ++ others) id := by
  obtain ⟨cell, member, isBox, same⟩ := named
  exact ⟨cell, List.mem_append_left others member, isBox, same⟩

/-- The last of some cells is named by its identifier if it is a box. -/
theorem namesBox_last (cells : List Cell) {cell : Cell} (isBox : cell.isBox = true) :
    NamesBox (cells ++ [cell]) cell.id :=
  ⟨cell, by simp, isBox, rfl⟩

end Cell

namespace Canvas

open Cell

/-- The number behind the stem is written in decimal. -/
theorem idOf_eq (stem : String) (number : Nat) :
    idOf stem number = stem ++ "-" ++ toString number := by
  rw [idOf, Number.naturalText, Nat.toString_eq_ofList_toDigits]

/-- An identifier determines its number. -/
theorem idOf_injective (stem : String) {first second : Nat}
    (same : idOf stem first = idOf stem second) : first = second := by
  have digits : Nat.toDigits 10 first = Nat.toDigits 10 second := by
    have characters := congrArg String.toList same
    simpa [idOf, Number.naturalText] using characters
  rw [← Nat.ofDigitChars_ten_toDigits (n := first), digits, Nat.ofDigitChars_ten_toDigits]

/-- Consecutive numbers give distinct identifiers. -/
theorem nodup_ids (stem : String) (first count : Nat) :
    ((List.range' first count).map (idOf stem)).Nodup := by
  have apart : (List.range' first count).Pairwise (· ≠ ·) := List.nodup_range'
  exact List.pairwise_map.mpr
    (apart.imp fun different same => different (idOf_injective stem same))

/-- Every identifier holds a hyphen, so a text without one is never issued. -/
theorem reserved_not_issued (stem : String) (numbers : List Nat) {reserved : String}
    (noHyphen : '-' ∉ reserved.toList) : reserved ∉ numbers.map (idOf stem) := by
  intro member
  obtain ⟨number, _, same⟩ := List.mem_map.mp member
  have hyphen : '-' ∈ (idOf stem number).toList := by simp [idOf]
  exact noHyphen (same ▸ hyphen)

/-- What holds of a canvas with a given stem at every moment of a drawing. The
next number is that of the next cell, and a key stands for a box that was drawn. -/
structure Sound (stem : String) (canvas : Canvas) : Prop where
  sameStem : canvas.stem = stem
  ids : canvas.cells.map Cell.id = (List.range' 2 canvas.cells.length).map (idOf stem)
  next : canvas.next = 2 + canvas.cells.length
  references : ∀ earlier cell later, canvas.cells = earlier ++ cell :: later →
    cell.RefersBack earlier
  placements : ∀ key placement, canvas.placement? key = some placement →
    NamesBox canvas.cells placement.id

variable {stem : String} {canvas : Canvas}

/-- Nothing was drawn on a blank canvas. -/
theorem blank_sound (stem : String) : (blank stem).Sound stem where
  sameStem := rfl
  ids := rfl
  next := rfl
  references := by simp [blank]
  placements := by simp [blank, placement?]

/-- Drawing one more cell under the issued identifier keeps a canvas sound,
provided that the cell refers back. Every operation that draws does so in this
way; they differ in what they remember. -/
theorem Sound.extend (sound : canvas.Sound stem) (cell : Cell)
    (issued : cell.id = idOf canvas.stem canvas.next) (back : cell.RefersBack canvas.cells)
    (remembered : List (Key × Placement))
    (placements : ∀ key placement, remembered.lookup key = some placement →
      NamesBox (canvas.cells ++ [cell]) placement.id) :
    Sound stem ⟨canvas.stem, canvas.next + 1, remembered, canvas.cells ++ [cell]⟩ := by
  refine ⟨sound.sameStem, ?_, ?_, ?_, placements⟩
  · rw [List.map_append, sound.ids, List.length_append, List.length_singleton,
      List.range'_concat, List.map_append]
    simp [issued, sound.next, sound.sameStem]
  · simp only [sound.next, List.length_append, List.length_singleton]
    omega
  · intro earlier other later split
    rcases split_of_concat split with ⟨rfl, rfl, _⟩ | ⟨before, _, same⟩
    · exact back
    · exact sound.references earlier other before same

/-- Where a cell is added, what was remembered still stands for boxes. -/
theorem Sound.remembered (sound : canvas.Sound stem) (cell : Cell) (key : Key)
    (placement : Placement) (found : canvas.placements.lookup key = some placement) :
    NamesBox (canvas.cells ++ [cell]) placement.id :=
  (sound.placements key placement found).append [cell]

/-- Drawing a box inside an earlier one or on the layer keeps a canvas sound, and
the box can be named afterwards. -/
theorem vertex_sound (sound : canvas.Sound stem) (value style : String) (place : Box)
    {parent : String} (key : Option Key) (anchor : Option Point)
    (inside : parent = layerId ∨ NamesBox canvas.cells parent) :
    (canvas.vertex value style place parent key anchor).2.Sound stem ∧
      NamesBox (canvas.vertex value style place parent key anchor).2.cells
        (canvas.vertex value style place parent key anchor).1 := by
  let drawn : Cell := ⟨idOf canvas.stem canvas.next, value, style, parent, .box place⟩
  have named : NamesBox (canvas.cells ++ [drawn]) drawn.id := namesBox_last _ rfl
  refine ⟨sound.extend drawn rfl ⟨inside, by simp [drawn]⟩ _ ?_, named⟩
  intro asked placement found
  cases key with
  | none => exact sound.remembered drawn asked placement found
  | some own =>
    by_cases same : asked = own
    · subst same
      have stands : (⟨drawn.id, anchor.getD place.corner⟩ : Placement) = placement :=
        Option.some.inj ((lookup_remember_same asked _ canvas.placements).symm.trans found)
      exact stands ▸ named
    · exact sound.remembered drawn asked placement
        ((lookup_remember_other same _ canvas.placements).symm.trans found)

/-- Drawing a link keeps a canvas sound: its ends are remembered boxes. -/
theorem edge_sound (sound : canvas.Sound stem) (value style : String) (source target : Key) :
    (canvas.edge value style source target).2.Sound stem := by
  cases start : canvas.placement? source with
  | none => rw [edge_of_missing canvas value style source target (.inl start)]; exact sound
  | some first =>
    cases stop : canvas.placement? target with
    | none => rw [edge_of_missing canvas value style source target (.inr stop)]; exact sound
    | some second =>
      let drawn : Cell :=
        ⟨idOf canvas.stem canvas.next, value, style, layerId, .link first.id second.id⟩
      have back : drawn.RefersBack canvas.cells := by
        refine ⟨.inl rfl, ?_⟩
        intro source' target' ends
        obtain ⟨rfl, rfl⟩ := Shape.link.inj ends
        exact ⟨sound.placements source first start, sound.placements target second stop⟩
      have extended := sound.extend drawn rfl back canvas.placements (sound.remembered drawn)
      simpa [edge, start, stop, issue] using extended

/-- Drawing a line keeps a canvas sound. -/
theorem line_sound (sound : canvas.Sound stem) (value style : String) (start stop : Point) :
    (canvas.line value style start stop).2.Sound stem :=
  sound.extend ⟨idOf canvas.stem canvas.next, value, style, layerId, .line start stop⟩ rfl
    ⟨.inl rfl, by simp⟩ canvas.placements (sound.remembered _)

/-- Drawing the rows of a box keeps a canvas sound. The box stays among the cells
while its rows are added, so each row lies inside it. -/
theorem drawRows_sound (sound : canvas.Sound stem) {parent : String} (rows : List Row)
    (inside : NamesBox canvas.cells parent) : (canvas.drawRows parent rows).Sound stem := by
  induction rows generalizing canvas with
  | nil => exact sound
  | cons row others inductionHypothesis =>
    have drawn := vertex_sound sound row.value row.style row.place none none (.inr inside)
    exact inductionHypothesis drawn.1 (inside.append _)

/-- Every figure keeps a canvas sound. -/
theorem draw_sound (sound : canvas.Sound stem) (figure : Figure) :
    (canvas.draw figure).Sound stem := by
  cases figure with
  | node key value style place anchor rows =>
    obtain ⟨drawn, named⟩ := vertex_sound sound value style place key anchor (.inl rfl)
    exact drawRows_sound drawn rows named
  | link value style source target => exact edge_sound sound value style source target
  | line value style start stop => exact line_sound sound value style start stop

/-- A whole drawing keeps a canvas sound. -/
theorem drawAll_sound (sound : canvas.Sound stem) (figures : List Figure) :
    (canvas.drawAll figures).Sound stem := by
  induction figures generalizing canvas with
  | nil => exact sound
  | cons figure others inductionHypothesis => exact inductionHypothesis (draw_sound sound figure)

/-- The cells of a sound canvas are numbered. The identifiers differ since their
numbers do, and the reserved ones hold no hyphen. -/
theorem Sound.numbered (sound : canvas.Sound stem) : Numbered stem canvas.cells where
  ids := by rw [sound.ids, funext (idOf_eq stem)]
  distinct := sound.ids ▸ nodup_ids stem 2 canvas.cells.length
  notRoot := sound.ids ▸ reserved_not_issued stem _ (by decide)
  notLayer := sound.ids ▸ reserved_not_issued stem _ (by decide)
  references := sound.references

end Canvas

/-- Whatever figures are drawn, their cells are numbered. -/
theorem cellsOf_numbered (stem : String) (figures : List Figure) :
    Cell.Numbered stem (cellsOf stem figures) :=
  (Canvas.drawAll_sound (Canvas.blank_sound stem) figures).numbered

/-- The cells of a diagram of any dialect are numbered, and so are those of an
architecture drawing, whatever the names, numbers and places in them are. -/
theorem drawings_numbered (stem : String) :
    (∀ diagram : Diagram, Cell.Numbered stem (diagram.cells stem)) ∧
      ∀ (placed : List C4.Placed) (relations : List C4.Relation),
        Cell.Numbered stem (cellsOf stem (C4.figures placed relations)) := by
  constructor
  · intro diagram
    exact cellsOf_numbered stem diagram.figures
  · intro placed relations
    exact cellsOf_numbered stem (C4.figures placed relations)

end Drafting
