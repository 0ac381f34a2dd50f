import Drafting.Proofs.Canvas.Numbering

/-!
# Operations on a canvas

A canvas may be asked for anything in any order, not only for what the layouts draw: keys are used
again or never, boxes lie inside what was never drawn, and coordinates may be too large to be
written. In the last case the identifier of the cell was issued before and is not issued again, but
no cell is added and no key is remembered.

What a run has led to is told from the operations and their outcomes alone. The identifiers that
were issued are counted from two upwards. A key stands for the last box that was drawn under it.
Each of these is a statement about one operation on any canvas, from which the statement about runs
follows by induction.

The main statement says this of all runs, and what a link drawn behind a run adds.
-/

namespace Drafting

/-- What a canvas may be asked for. -/
inductive Operation where
  | vertex (value style : String) (place : Box) (parent : String) (key : Option Key)
      (anchor : Option Point)
  | edge (value style : String) (source target : Option Key)
  | line (value style : String) (start stop : Point)
  | issue
  deriving DecidableEq, Repr

/-- How an operation ends: with an identifier, with nothing for a link without an end, or with a
coordinate that cannot be written, for which an identifier was used up. -/
inductive Outcome where
  | answered (id : String)
  | dropped
  | unwritable (id : String)
  deriving DecidableEq, Repr

namespace Outcome

/-- The identifier that was issued. -/
def issued? : Outcome → Option String
  | answered id => some id
  | dropped => none
  | unwritable id => some id

/-- The identifiers that were issued, in order. -/
def issued (outcomes : List Outcome) : List String := outcomes.filterMap issued?

end Outcome

namespace Operation

/-- Whether an operation asks for a link. -/
def isEdge : Operation → Bool
  | .edge .. => true
  | _ => false

/-- The cell that an operation other than a link asks for, if it asks for one. -/
def cell? (id : String) : Operation → Option Cell
  | .vertex value style place parent _ _ => some ⟨id, value, style, parent, .box place⟩
  | .line value style start stop => some ⟨id, value, style, Cell.layerId, .line start stop⟩
  | _ => none

/-- The box that an operation places under a key, with its identifier and the given anchor, or its
corner if there is none. -/
def placed? (key : Key) : Operation × Outcome → Option Placement
  | (.vertex _ _ place _ (some own) anchor, .answered id) =>
    if own = key then some ⟨id, anchor.getD place.corner⟩ else none
  | _ => none

/-- The last box that operations place under a key. -/
def lastPlaced? (key : Key) (history : List (Operation × Outcome)) : Option Placement :=
  history.reverse.findSome? (placed? key)

end Operation

namespace Canvas

/-- Draws, if the coordinates of what is added can be written. Otherwise the identifier is issued
and nothing is added. -/
def ifWritable (canvas : Canvas) (drawn : String × Canvas) : Outcome × Canvas :=
  if (drawn.2.cells.drop canvas.cells.length).all Cell.fits then (.answered drawn.1, drawn.2)
  else (.unwritable canvas.issue.1, canvas.issue.2)

/-- Carries out one operation. No box is remembered without a key, so a link without one is
dropped. -/
def perform (canvas : Canvas) : Operation → Outcome × Canvas
  | .vertex value style place parent key anchor =>
    canvas.ifWritable (canvas.vertex value style place parent key anchor)
  | .edge value style (some source) (some target) =>
    match canvas.edge value style source target with
    | (some id, drawn) => (.answered id, drawn)
    | (none, same) => (.dropped, same)
  | .edge .. => (.dropped, canvas)
  | .line value style start stop => canvas.ifWritable (canvas.line value style start stop)
  | .issue => (.answered canvas.issue.1, canvas.issue.2)

/-- Carries out operations one after the other. -/
def performAll (canvas : Canvas) : List Operation → List Outcome × Canvas
  | [] => ([], canvas)
  | operation :: others =>
    let (outcome, next) := canvas.perform operation
    let (outcomes, last) := next.performAll others
    (outcome :: outcomes, last)

/-- A link is drawn between two remembered boxes, and otherwise nothing changes. -/
theorem perform_edge (canvas : Canvas) (value style : String) (source target : Option Key) :
    canvas.perform (.edge value style source target) =
      match source.bind canvas.placement?, target.bind canvas.placement? with
      | some first, some second =>
        (.answered (idOf canvas.stem canvas.next),
          { canvas with
            next := canvas.next + 1
            cells := canvas.cells ++ [⟨idOf canvas.stem canvas.next, value, style, Cell.layerId,
              .link first.id second.id⟩] })
      | _, _ => (.dropped, canvas) := by
  cases source with
  | none => rfl
  | some source =>
    cases target with
    | none => cases start : canvas.placement? source <;> simp [perform, start]
    | some target =>
      cases start : canvas.placement? source <;> cases stop : canvas.placement? target <;>
        simp [perform, edge, start, stop, issue]

/-- What is asked for, other than links, is added under the next identifier, which is issued also
where it cannot be written. -/
theorem perform_other (canvas : Canvas) {operation : Operation} (other : operation.isEdge = false) :
    let id := idOf canvas.stem canvas.next
    (canvas.perform operation).1 =
        (if (operation.cell? id).all Cell.fits then .answered id else .unwritable id) ∧
      (canvas.perform operation).2.cells =
        canvas.cells ++ ((operation.cell? id).filter Cell.fits).toList := by
  intro id
  cases operation with
  | vertex value style place parent key anchor =>
    cases fits : Cell.fits ⟨idOf canvas.stem canvas.next, value, style, parent, .box place⟩ <;>
      simp [perform, ifWritable, vertex, issue, Operation.cell?, id, fits, Option.filter]
  | edge value style source target => contradiction
  | line value style start stop =>
    cases fits : Cell.fits
        ⟨idOf canvas.stem canvas.next, value, style, Cell.layerId, .line start stop⟩ <;>
      simp [perform, ifWritable, line, issue, Operation.cell?, id, fits, Option.filter]
  | issue => simp [perform, issue, Operation.cell?, id]

/-- A canvas leads to another one on which some identifiers were issued, the next ones in order.
Cells stay, and each that is added has one of these identifiers. -/
structure Advances (canvas next : Canvas) (issued : List String) : Prop where
  sameStem : next.stem = canvas.stem
  numbered : issued = (List.range' canvas.next issued.length).map (idOf canvas.stem)
  counted : next.next = canvas.next + issued.length
  added : ∃ cells, next.cells = canvas.cells ++ cells ∧ (cells.map Cell.id).Sublist issued

/-- Nothing is issued where nothing is done. -/
theorem Advances.refl (canvas : Canvas) : canvas.Advances canvas [] where
  sameStem := rfl
  numbered := rfl
  counted := rfl
  added := ⟨[], (List.append_nil _).symm, .slnil⟩

/-- What is issued first stands before what is issued later. -/
theorem Advances.trans {canvas next last : Canvas} {first second : List String}
    (earlier : canvas.Advances next first) (later : next.Advances last second) :
    canvas.Advances last (first ++ second) where
  sameStem := later.sameStem.trans earlier.sameStem
  numbered := by
    rw [List.length_append, ← List.range'_append_1, List.map_append, ← earlier.numbered,
      ← earlier.counted, ← earlier.sameStem, ← later.numbered]
  counted := by rw [later.counted, earlier.counted, List.length_append, Nat.add_assoc]
  added := by
    obtain ⟨front, frontCells, frontIds⟩ := earlier.added
    obtain ⟨back, backCells, backIds⟩ := later.added
    refine ⟨front ++ back, by rw [backCells, frontCells, List.append_assoc], ?_⟩
    rw [List.map_append]
    exact frontIds.append backIds

/-- The next identifier is issued, for a cell or for none. -/
theorem advances_one (canvas : Canvas) (remembered : List (Key × Placement)) (cells : List Cell)
    (ids : (cells.map Cell.id).Sublist [idOf canvas.stem canvas.next]) :
    canvas.Advances ⟨canvas.stem, canvas.next + 1, remembered, canvas.cells ++ cells⟩
      [idOf canvas.stem canvas.next] where
  sameStem := rfl
  numbered := rfl
  counted := rfl
  added := ⟨cells, rfl, ids⟩

/-- Issuing an identifier for no cell. -/
theorem advances_issue (canvas : Canvas) : canvas.Advances canvas.issue.2 [canvas.issue.1] := by
  have issued := canvas.advances_one canvas.placements [] (List.nil_sublist _)
  rwa [List.append_nil] at issued

/-- An identifier is issued whether a cell can be written or not. -/
theorem advances_ifWritable (canvas : Canvas) (remembered : List (Key × Placement)) {cell : Cell}
    (id : cell.id = idOf canvas.stem canvas.next) :
    let drawn : String × Canvas :=
      (cell.id, ⟨canvas.stem, canvas.next + 1, remembered, canvas.cells ++ [cell]⟩)
    canvas.Advances (canvas.ifWritable drawn).2 (canvas.ifWritable drawn).1.issued?.toList := by
  intro drawn
  rw [ifWritable]
  split
  · have issued := canvas.advances_one remembered [cell] (by simp [id])
    rw [← id] at issued
    exact issued
  · exact canvas.advances_issue

/-- Every operation issues the next identifier or none. -/
theorem advances_perform (canvas : Canvas) (operation : Operation) :
    canvas.Advances (canvas.perform operation).2
      (canvas.perform operation).1.issued?.toList := by
  cases operation with
  | vertex value style place parent key anchor => exact canvas.advances_ifWritable _ rfl
  | edge value style source target =>
    rw [perform_edge]
    split
    · exact canvas.advances_one canvas.placements _ (.refl _)
    · exact .refl canvas
  | line value style start stop => exact canvas.advances_ifWritable _ rfl
  | issue => exact canvas.advances_issue

/-- A run issues the identifiers of its operations, one after the other. -/
theorem advances_performAll (canvas : Canvas) (operations : List Operation) :
    canvas.Advances (canvas.performAll operations).2
      (Outcome.issued (canvas.performAll operations).1) := by
  induction operations generalizing canvas with
  | nil => exact .refl canvas
  | cons operation others inductionHypothesis =>
    have whole := (canvas.advances_perform operation).trans
      (inductionHypothesis (canvas.perform operation).2)
    have issued : Outcome.issued (canvas.performAll (operation :: others)).1 =
        (canvas.perform operation).1.issued?.toList ++
          Outcome.issued ((canvas.perform operation).2.performAll others).1 := by
      rw [performAll, Outcome.issued, Outcome.issued, List.filterMap_cons]
      cases (canvas.perform operation).1.issued? <;> rfl
    rw [issued]
    exact whole

/-- After an operation a key stands for the box that the operation placed under it, or for what it
stood for before. -/
theorem placement?_perform (canvas : Canvas) (operation : Operation) (key : Key) :
    (canvas.perform operation).2.placement? key =
      (Operation.placed? key (operation, (canvas.perform operation).1)).or
        (canvas.placement? key) := by
  cases operation with
  | vertex value style place parent own anchor =>
    rw [perform, ifWritable]
    split
    · cases own with
      | none => rfl
      | some own =>
        by_cases same : own = key
        · subst same
          simp [Operation.placed?, vertex, placement?, issue, lookup_remember_same]
        · simp [Operation.placed?, vertex, placement?, issue, same,
            lookup_remember_other (Ne.symm same)]
    · cases own <;> rfl
  | edge value style source target =>
    rw [perform_edge]
    split <;> rfl
  | line value style start stop =>
    rw [perform, ifWritable]
    split <;> rfl
  | issue => rfl

/-- After a run a key stands for the last box that was placed under it. -/
theorem placement?_performAll (canvas : Canvas) (operations : List Operation) (key : Key) :
    (canvas.performAll operations).2.placement? key =
      (Operation.lastPlaced? key (operations.zip (canvas.performAll operations).1)).or
        (canvas.placement? key) := by
  induction operations generalizing canvas with
  | nil => rfl
  | cons operation others inductionHypothesis =>
    have later := inductionHypothesis (canvas.perform operation).2
    rw [placement?_perform] at later
    rw [performAll, Operation.lastPlaced?, List.zip_cons_cons, List.reverse_cons,
      List.findSome?_append, List.findSome?_singleton, Option.or_assoc]
    exact later

end Canvas

open Operation in
/-- Whatever a canvas was asked for, the identifiers that were issued are counted from two upwards
in the order of the operations, so they differ, and the cells have some of them, in that order. A
key stands for the last box that was drawn under it. A link is drawn if both of its keys stand for
boxes, as one cell that joins them; otherwise the canvas stays as it was. Everything else that is
asked for is given the next identifier, and it is drawn if it can be written. -/
theorem operations_numbered (stem : String) (operations : List Operation) :
    let run := (Canvas.blank stem).performAll operations
    let issued := Outcome.issued run.1
    let placed := fun key => lastPlaced? key (operations.zip run.1)
    let next := stem ++ "-" ++ toString (2 + issued.length)
    issued = (List.range' 2 issued.length).map (fun number => stem ++ "-" ++ toString number) ∧
      issued.Nodup ∧
      (run.2.cells.map Cell.id).Sublist issued ∧
      (∀ key, run.2.placement? key = placed key) ∧
      (∀ value style source target,
        run.2.perform (.edge value style source target) =
          match source.bind placed, target.bind placed with
          | some first, some second =>
            (.answered next, { run.2 with
              next := run.2.next + 1
              cells := run.2.cells ++
                [⟨next, value, style, Cell.layerId, .link first.id second.id⟩] })
          | _, _ => (.dropped, run.2)) ∧
      ∀ operation : Operation, operation.isEdge = true ∨
        ((run.2.perform operation).1 =
            (if (operation.cell? next).all Cell.fits then .answered next else .unwritable next) ∧
          (run.2.perform operation).2.cells =
            run.2.cells ++ ((operation.cell? next).filter Cell.fits).toList) := by
  intro run issued placed next
  have advances : (Canvas.blank stem).Advances run.2 issued :=
    (Canvas.blank stem).advances_performAll operations
  have numbered : issued = (List.range' 2 issued.length).map (Canvas.idOf stem) :=
    advances.numbered
  have remembered : run.2.placement? = placed := by
    funext key
    exact ((Canvas.blank stem).placement?_performAll operations key).trans (Option.or_none ..)
  have nextId : Canvas.idOf run.2.stem run.2.next = next := by
    rw [advances.sameStem, advances.counted]
    exact Canvas.idOf_eq stem _
  refine ⟨?_, ?_, ?_, congrFun remembered, ?_, ?_⟩
  · rw [← funext (Canvas.idOf_eq stem)]
    exact numbered
  · rw [numbered]
    exact Canvas.nodup_ids stem 2 issued.length
  · obtain ⟨added, cells, ids⟩ := advances.added
    rw [cells]
    exact ids
  · intro value style source target
    rw [Canvas.perform_edge, remembered, nextId]
  · intro operation
    cases kind : operation.isEdge with
    | true => exact .inl rfl
    | false =>
      have drawn := run.2.perform_other kind
      rw [nextId] at drawn
      exact .inr drawn

end Drafting
