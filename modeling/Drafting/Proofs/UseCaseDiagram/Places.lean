import Drafting.Proofs.Blocks
import Drafting.Proofs.Closings
import Drafting.Proofs.Diagram.Endpoints
import Drafting.Proofs.UseCaseDiagram.Rectangles

/-!
# The rectangle of a use case

The reader of use cases knows rectangles and no other blocks, and every closing brace takes the
innermost open one away. A use case goes into the innermost open rectangle when its name is
first met, and it stays there.

The main statements are that a use case that is declared for the first time belongs to the
innermost open rectangle, and that this is the innermost one around its declaration exactly if
no ignored block was closed since the opening of that.
-/

namespace Drafting.UseCaseDiagram

open Text

/-- Whether a line neither opens nor closes a rectangle. -/
def isPlain (line : String) : Bool :=
  !(Statement.openRectangle? line.toList).isSome && !(line == "\x7d")

/-- The opening of a package is plain. -/
theorem isPlain_package (text : String) : isPlain ("package " ++ text) := by
  have opensNot : Statement.openRectangle? ("package " ++ text).toList = none := by
    rw [String.toList_append]
    rfl
  have brace : "\x7d".toList.head? = some '\x7d' := rfl
  have closesNot : ("package " ++ text == "\x7d") = false :=
    beq_eq_false_of_head? brace (by simp)
  rw [isPlain, opensNot, closesNot]
  rfl

/-- The statements that are tried behind those on rectangles open none. -/
theorem Statement.ne_openRectangle {line : String} {statement : Statement}
    (read : ofLine? line = some statement) (label : String) :
    statement ≠ .openRectangle label := by
  obtain ⟨form, member, found⟩ := List.exists_of_findSome?_eq_some read
  simp only [forms, List.mem_cons, List.not_mem_nil, or_false] at member
  rintro rfl
  rcases member with rfl | rfl | rfl | rfl | rfl | rfl
  · simp [quotedActor?, Option.bind_eq_some_iff] at found
  · simp [plainActor?, Option.bind_eq_some_iff] at found
  · simp [quotedUseCase?, Option.bind_eq_some_iff] at found
  · obtain ⟨_, _, behind⟩ := Option.bind_eq_some_iff.mp found
    obtain ⟨_, within⟩ := exists_of_someBlanks behind
    obtain ⟨_, last⟩ := exists_of_optionally within
    simp [Option.bind_eq_some_iff] at last
  · simp [shortUseCase?, Option.bind_eq_some_iff] at found
  · simp [relation?, Option.bind_eq_some_iff] at found

namespace Progress

/-- A line that opens a rectangle is read as that. -/
theorem readLine_opening (progress : Progress) {line : String} {label : String}
    (opening : Statement.openRectangle? line.toList = some (.openRectangle label)) :
    progress.readLine line = progress.openRectangle label := by
  rw [readLine, opening]
  rfl

/-- A plain line is read as its statement, if it has one. -/
theorem readLine_plain (progress : Progress) {line : String} (plain : isPlain line) :
    progress.readLine line = ((Statement.ofLine? line).map progress.apply).getD progress := by
  simp only [isPlain, Bool.and_eq_true, Bool.not_eq_true'] at plain
  obtain ⟨opensNot, closesNot⟩ := plain
  have unopened : Statement.openRectangle? line.toList = none := by simpa using opensNot
  rw [readLine, unopened, closesNot]
  cases Statement.ofLine? line <;> rfl

/-- What is kept by adding actors, use cases and relations is kept by every statement that opens
no rectangle. -/
theorem apply_keeps (Invariant : Progress → Prop)
    (actor : ∀ progress name label, Invariant progress → Invariant (progress.addActor name label))
    (useCase : ∀ progress name label place, Invariant progress →
      Invariant (progress.addUseCase name label place))
    (related : ∀ progress relations, Invariant progress →
      Invariant { progress with diagram := { progress.diagram with relations } })
    {progress : Progress} (holds : Invariant progress) {statement : Statement}
    (opensNot : ∀ label, statement ≠ .openRectangle label) :
    Invariant (progress.apply statement) := by
  cases statement with
  | openRectangle label => exact absurd rfl (opensNot label)
  | actor name label => exact actor progress name label holds
  | useCase name label => exact useCase progress name label _ holds
  | relation source target hasHead label =>
    have sourced : Invariant (progress.withSource source) := by
      rw [withSource]
      split
      · exact actor progress source source holds
      · exact holds
    have named : Invariant ((progress.withSource source).withTarget target) := by
      rw [withTarget]
      split
      · exact useCase _ target target none sourced
      · exact sourced
    exact related _ _ named

/-- What is kept by opening and closing rectangles, too, is kept by every line. -/
theorem readLine_keeps (Invariant : Progress → Prop)
    (opens : ∀ progress label, Invariant progress → Invariant (progress.openRectangle label))
    (closes : ∀ progress openRectangles, Invariant progress →
      Invariant { progress with openRectangles })
    (actor : ∀ progress name label, Invariant progress → Invariant (progress.addActor name label))
    (useCase : ∀ progress name label place, Invariant progress →
      Invariant (progress.addUseCase name label place))
    (related : ∀ progress relations, Invariant progress →
      Invariant { progress with diagram := { progress.diagram with relations } })
    {progress : Progress} (holds : Invariant progress) (line : String) :
    Invariant (progress.readLine line) := by
  have applied (statement : Statement) : Invariant (progress.apply statement) := by
    by_cases opening : ∃ label, statement = .openRectangle label
    · obtain ⟨label, rfl⟩ := opening
      exact opens progress label holds
    · exact apply_keeps Invariant actor useCase related holds (not_exists.mp opening)
  rw [readLine]
  split
  · exact applied _
  · split
    · exact closes progress _ holds
    · split
      · exact applied _
      · exact holds

/-- Adding actors, use cases and relations leaves the open rectangles as they are. -/
theorem apply_openRectangles (progress : Progress) {statement : Statement}
    (opensNot : ∀ label, statement ≠ .openRectangle label) :
    (progress.apply statement).openRectangles = progress.openRectangles := by
  refine apply_keeps (fun next => next.openRectangles = progress.openRectangles) ?_ ?_
    (fun _ _ same => same) rfl opensNot
  · intro next name label same
    rw [addActor]
    split <;> exact same
  · intro next name label place same
    rw [addUseCase]
    split <;> exact same

end Progress

/-- What opens a rectangle says so. -/
theorem Statement.exists_of_openRectangle? {line : List Char} {statement : Statement}
    (read : openRectangle? line = some statement) : ∃ label, statement = .openRectangle label := by
  simp only [openRectangle?, Option.bind_eq_bind, Option.bind_eq_some_iff, Prod.exists] at read
  obtain ⟨_, _, _, _, _, _, label, _, _, _, _, behind⟩ := read
  obtain ⟨rest, last⟩ := exists_of_optionally behind
  obtain ⟨_, same⟩ := Option.ite_none_right_eq_some.mp last
  exact ⟨_, (Option.some.inj same).symm⟩

/-- The reader of use cases with the rectangles that are open. -/
def stackReader : StackReader Progress where
  read := Progress.readLine
  stack := Progress.openRectangles
  isReady _ := True
  closing := "\x7d"
  isPlain := isPlain
  isOpening line := (Statement.openRectangle? line.toList).isSome
  plain := by
    intro progress line _ plain
    refine ⟨trivial, ?_⟩
    rw [progress.readLine_plain plain]
    cases read : Statement.ofLine? line with
    | none => rfl
    | some statement =>
      exact progress.apply_openRectangles (Statement.ne_openRectangle read)
  opens := by
    intro progress line _ opening
    obtain ⟨statement, read⟩ := Option.isSome_iff_exists.mp opening
    obtain ⟨label, rfl⟩ := Statement.exists_of_openRectangle? read
    rw [progress.readLine_opening read]
    exact ⟨trivial, _, rfl⟩
  closes := by
    intro progress _
    rw [progress.readLine_close]
    exact ⟨trivial, rfl⟩

/-- The labels of the rectangles. -/
def labels (diagram : UseCaseDiagram) : List String := diagram.rectangles.map Rectangle.label

/-- A use case is known and belongs to the rectangle at a position, or to none: it carries its
label, and this rectangle lists it and no other. -/
structure Belongs (useCase : UseCase) (position : Option Nat) (diagram : UseCaseDiagram) :
    Prop where
  known : useCase ∈ diagram.useCases
  inside : ∀ place ∈ position, place < diagram.rectangles.length
  labelled : useCase.rectangle = position.bind fun place => diagram.labels[place]?
  listed : ∀ (place : Nat) (rectangle : Rectangle), diagram.rectangles[place]? = some rectangle →
    (useCase.name ∈ rectangle.useCases ↔ position = some place)

/-- Entering a name in a rectangle changes no label. -/
theorem labels_enlist (diagram : UseCaseDiagram) (name : String) (changed : Nat) :
    (diagram.rectangles.modify changed fun rectangle =>
      { rectangle with useCases := rectangle.useCases ++ [name] }).map Rectangle.label =
        diagram.labels := by
  refine map_modify_of_blind ?_ _ _
  intro rectangle
  rfl

namespace Belongs

variable {useCase : UseCase} {position : Option Nat} {progress : Progress}

/-- A new rectangle stands behind all others and lists nothing. -/
theorem openRectangle (belongs : Belongs useCase position progress.diagram) (label : String) :
    Belongs useCase position (progress.openRectangle label).diagram := by
  obtain ⟨known, inside, labelled, listed⟩ := belongs
  refine ⟨known, ?_, ?_, ?_⟩
  · intro place isPosition
    have below := inside place isPosition
    rw [Progress.openRectangle, List.length_append]
    omega
  · cases position with
    | none => exact labelled
    | some place =>
      have below : place < progress.diagram.labels.length := by
        rw [labels, List.length_map]
        exact inside place rfl
      have kept : (progress.openRectangle label).diagram.labels[place]? =
          progress.diagram.labels[place]? := by
        rw [labels, Progress.openRectangle, List.map_append]
        exact List.getElem?_append_left below
      rw [Option.bind_some, kept]
      exact labelled
  · intro place rectangle found
    rcases getElem?_concat_eq_some_iff.mp found with old | ⟨rfl, rfl⟩
    · exact listed place rectangle old
    · constructor
      · intro isListed
        contradiction
      · intro here
        exact absurd (inside _ here) (Nat.lt_irrefl _)

/-- Entering other names in a rectangle changes nothing for a use case. -/
theorem modify (belongs : Belongs useCase position progress.diagram) {name : String}
    (other : name ≠ useCase.name) (useCases : List UseCase) (changed : Nat) :
    Belongs useCase position { progress.diagram with
      useCases := progress.diagram.useCases ++ useCases
      rectangles := progress.diagram.rectangles.modify changed fun rectangle =>
        { rectangle with useCases := rectangle.useCases ++ [name] } } := by
  obtain ⟨known, inside, labelled, listed⟩ := belongs
  refine ⟨List.mem_append_left _ known, ?_, ?_, ?_⟩
  · simpa only [List.length_modify] using inside
  · have same := labels_enlist progress.diagram name changed
    exact labelled.trans
      (congrArg (fun labels : List String => position.bind fun place => labels[place]?) same.symm)
  · intro place rectangle found
    obtain ⟨original, old, rfl⟩ := getElem?_modify_eq_some_iff.mp found
    rw [← listed place original old]
    split
    · simp [other.symm]
    · exact Iff.rfl

/-- A name that is known is entered nowhere again. -/
theorem addUseCase (belongs : Belongs useCase position progress.diagram) (name label : String)
    (place : Option Nat) :
    Belongs useCase position (progress.addUseCase name label place).diagram := by
  rw [Progress.addUseCase]
  split
  · exact belongs
  · next unknown =>
    have other : name ≠ useCase.name := by
      rintro rfl
      exact unknown (any_key_iff.mpr (List.mem_map_of_mem belongs.known))
    cases place with
    | none =>
      exact ⟨List.mem_append_left _ belongs.known, belongs.inside, belongs.labelled,
        belongs.listed⟩
    | some changed => exact belongs.modify other _ changed

/-- Whatever is read, a use case stays where it is. -/
theorem readLine (belongs : Belongs useCase position progress.diagram) (line : String) :
    Belongs useCase position (progress.readLine line).diagram := by
  refine Progress.readLine_keeps
    (fun progress => Belongs useCase position progress.diagram)
    (fun _ label belongs => belongs.openRectangle label) (fun _ _ belongs => belongs) ?_
    (fun _ name label place belongs => belongs.addUseCase name label place)
    (fun _ _ belongs => ⟨belongs.known, belongs.inside, belongs.labelled, belongs.listed⟩)
    belongs line
  intro progress name label belongs
  rw [Progress.addActor]
  split
  · exact belongs
  · exact ⟨belongs.known, belongs.inside, belongs.labelled, belongs.listed⟩

/-- A use case whose name is new belongs to the rectangle in which it is entered. -/
theorem of_new (sound : progress.Sound) {name : String} (new : progress.hasUseCase name = false)
    (label : String) :
    ∃ useCase : UseCase, useCase.name = name ∧ useCase.label = label ∧
      Belongs useCase progress.openRectangles.head?
        (progress.addUseCase name label progress.openRectangles.head?).diagram := by
  have fresh : name ∉ progress.diagram.useCaseNames := by
    intro known
    have found := any_key_iff.mpr known
    rw [Progress.hasUseCase] at new
    rw [new] at found
    contradiction
  have unlisted (rectangle : Rectangle) (member : rectangle ∈ progress.diagram.rectangles) :
      name ∉ rectangle.useCases := by
    intro isListed
    obtain ⟨other, isKnown, sameName, _⟩ := sound.arranged.labelled rectangle member name isListed
    exact fresh (sameName ▸ List.mem_map_of_mem isKnown)
  rw [Progress.addUseCase, if_neg (by simp [new])]
  refine ⟨_, rfl, rfl, List.mem_append_right _ (List.mem_singleton_self _), ?_, ?_, ?_⟩
  · intro place isPosition
    have below := sound.opened place (List.mem_of_head? isPosition)
    cases progress.openRectangles.head? with
    | none => exact below
    | some changed => rwa [List.length_modify]
  · cases progress.openRectangles.head? with
    | none => rfl
    | some changed =>
      have same := labels_enlist progress.diagram name changed
      have here : (progress.diagram.rectangles[changed]?).map Rectangle.label =
          progress.diagram.labels[changed]? := List.getElem?_map.symm
      exact here.trans (congrArg (fun labels : List String => labels[changed]?) same.symm)
  · intro place rectangle found
    cases opened : progress.openRectangles.head? with
    | none =>
      rw [opened] at found
      have isListed := unlisted rectangle (List.mem_of_getElem? found)
      simpa using isListed
    | some changed =>
      rw [opened] at found
      obtain ⟨original, old, rfl⟩ := getElem?_modify_eq_some_iff.mp found
      have isListed := unlisted original (List.mem_of_getElem? old)
      by_cases here : changed = place
      · simp [here]
      · simp [here, isListed]

end Belongs

/-- The labels of rectangles stay, and further ones are put behind them. -/
theorem Progress.labels_readLine (progress : Progress) (line : String) :
    progress.diagram.labels <+: (progress.readLine line).diagram.labels := by
  refine Progress.readLine_keeps
    (fun next => progress.diagram.labels <+: next.diagram.labels)
    ?_ (fun _ _ begins => begins) ?_ ?_ (fun _ _ begins => begins) (List.prefix_refl _) line
  · intro next label begins
    have grown : (next.openRectangle label).diagram.labels = next.diagram.labels ++ [label] :=
      List.map_append
    rw [grown]
    exact begins.trans (List.prefix_append _ _)
  · intro next name label begins
    rw [addActor]
    split <;> exact begins
  · intro next name label place begins
    rw [addUseCase]
    split
    · exact begins
    · cases place with
      | none => exact begins
      | some changed =>
        exact begins.trans (labels_enlist next.diagram name changed ▸ List.prefix_rfl)

/-- So do those of the first rectangles behind some lines. -/
theorem Progress.label_afterLines {progress : Progress} {position : Nat} {label : String}
    (labelled : progress.diagram.labels[position]? = some label) (lines : List String) :
    (lines.foldl Progress.readLine progress).diagram.labels[position]? = some label := by
  have begins : progress.diagram.labels <+:
      (lines.foldl Progress.readLine progress).diagram.labels :=
    List.foldlRecOn (motive := fun next : Progress =>
      progress.diagram.labels <+: next.diagram.labels) lines Progress.readLine
      (List.prefix_refl _) fun next begins line _ => begins.trans (next.labels_readLine line)
  obtain ⟨further, whole⟩ := begins
  rw [← whole, List.getElem?_append_left (List.getElem?_eq_some_iff.mp labelled).1, labelled]

/-- At a place within a rectangle this is the innermost open one exactly if no ignored block was
closed since its opening. -/
theorem Progress.innermost_iff {progress : Progress} (sound : progress.Sound) (label : String)
    {place : Blocks.Place} (accepted : place.isProper isPlain stackReader.isOpening) :
    ((place.lines "\x7d").foldl Progress.readLine
        (progress.openRectangle label)).openRectangles.head? =
      some progress.diagram.rectangles.length ↔ place.ignoredCount = 0 := by
  have pops : stackReader.Pops place.ignoredCount (place.lines "\x7d") :=
    StackReader.pops_place accepted
  have stack : ((place.lines "\x7d").foldl Progress.readLine
      (progress.openRectangle label)).openRectangles =
      (progress.diagram.rectangles.length :: progress.openRectangles).drop place.ignoredCount :=
    (pops (progress.openRectangle label) trivial).2
  rw [stack]
  cases place.ignoredCount with
  | zero => simp
  | succ fewer =>
    rw [List.drop_succ_cons]
    constructor
    · intro innermost
      -- the rectangles that were open before are older than this one
      have older := sound.opened _ (List.mem_of_mem_drop (List.mem_of_head? innermost))
      exact absurd older (Nat.lt_irrefl _)
    · intro impossible
      contradiction

/-- A use case that is declared for the first time belongs to the innermost open rectangle. -/
theorem Belongs.of_declaration {progress : Progress} (sound : progress.Sound)
    {declaration name label : String} (plain : isPlain declaration)
    (declares : Statement.ofLine? declaration = some (.useCase name label))
    (new : progress.hasUseCase name = false) (later : List String) :
    ∃ useCase : UseCase, useCase.name = name ∧ useCase.label = label ∧
      Belongs useCase progress.openRectangles.head?
        ((declaration :: later).foldl Progress.readLine progress).diagram := by
  obtain ⟨useCase, sameName, sameLabel, belongs⟩ := of_new sound new label
  have declared : progress.readLine declaration =
      progress.addUseCase name label progress.openRectangles.head? := by
    rw [progress.readLine_plain plain, declares]
    rfl
  rw [← declared] at belongs
  refine ⟨useCase, sameName, sameLabel, ?_⟩
  exact List.foldlRecOn (motive := fun next : Progress => Belongs useCase _ next.diagram) later
    Progress.readLine belongs fun _ belongs line _ => belongs.readLine line

end Drafting.UseCaseDiagram
