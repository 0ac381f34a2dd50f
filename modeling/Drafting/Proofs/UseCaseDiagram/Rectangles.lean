import Drafting.Proofs.Diagram.Endpoints
import Drafting.UseCaseDiagram.Reader

/-!
# Use cases and the rectangles around them

Where a use case stands is said twice: the use case holds the label of its rectangle, and
the rectangle holds the name of the use case. Rectangles may share a label, so the label
alone does not tell the rectangle. What is kept by every line is that the names that all
rectangles list together are those of the use cases that have a rectangle, each as often in
one list as in the other; since names of use cases are distinct, each is listed once.

A relation may name a source that nobody has declared and that does not look like a person.
Its target is always known, because it is added where it is missing.

The main statement is that both records agree after any lines, and that the drawing leaves
out exactly the relations whose source is neither an actor nor a use case.
-/

namespace Drafting.UseCaseDiagram

/-- The names of the actors. -/
def actorNames (diagram : UseCaseDiagram) : List String := diagram.actors.map Actor.name

/-- The names of the use cases. -/
def useCaseNames (diagram : UseCaseDiagram) : List String := diagram.useCases.map UseCase.name

/-- The names that a relation can be drawn between. -/
def names (diagram : UseCaseDiagram) : List String := diagram.actorNames ++ diagram.useCaseNames

/-- The names that the rectangles list, one rectangle after the other. -/
def listed (diagram : UseCaseDiagram) : List String :=
  diagram.rectangles.flatMap Rectangle.useCases

/-- The names of the use cases that hold the label of a rectangle. -/
def enclosed (diagram : UseCaseDiagram) : List String :=
  (diagram.useCases.filter fun useCase => useCase.rectangle.isSome).map UseCase.name

/-- Names are distinct, what rectangles list are the use cases that stand in one, and
targets are known. -/
structure Arranged (diagram : UseCaseDiagram) : Prop where
  distinctActors : diagram.actorNames.Nodup
  distinctUseCases : diagram.useCaseNames.Nodup
  partition : diagram.listed.Perm diagram.enclosed
  labelled : ∀ rectangle ∈ diagram.rectangles, ∀ name ∈ rectangle.useCases,
    ∃ useCase ∈ diagram.useCases, useCase.name = name ∧
      useCase.rectangle = some rectangle.label
  ordered : ∀ rectangle ∈ diagram.rectangles,
    rectangle.useCases.Sublist diagram.useCaseNames
  targets : ∀ relation ∈ diagram.relations, relation.target ∈ diagram.names

/-- The rectangles record where a use case stands: its name is listed once, by one rectangle
that has its label, or by none if it has no rectangle. -/
def Records (diagram : UseCaseDiagram) (useCase : UseCase) : Prop :=
  match useCase.rectangle with
  | some label =>
    ∃ before rectangle after, diagram.rectangles = before ++ rectangle :: after ∧
      rectangle.label = label ∧ rectangle.useCases.count useCase.name = 1 ∧
      ∀ other ∈ before ++ after, useCase.name ∉ other.useCases
  | none => ∀ rectangle ∈ diagram.rectangles, useCase.name ∉ rectangle.useCases

namespace Arranged

variable {diagram : UseCaseDiagram}

/-- An empty diagram. -/
theorem empty : Arranged {} where
  distinctActors := List.nodup_nil
  distinctUseCases := List.nodup_nil
  partition := .nil
  labelled := by simp
  ordered := by simp
  targets := by simp

/-- A rectangle lists nothing at first. -/
theorem addRectangle (arranged : diagram.Arranged) (label : String) :
    Arranged { diagram with rectangles := diagram.rectangles ++ [{ label }] } := by
  refine ⟨arranged.distinctActors, arranged.distinctUseCases, ?_, ?_, ?_, arranged.targets⟩
  · have same : listed { diagram with rectangles := diagram.rectangles ++ [{ label }] } =
        diagram.listed := by
      simp [listed]
    rw [same]
    exact arranged.partition
  · intro rectangle member name inside
    rcases List.mem_append.mp member with earlier | last
    · exact arranged.labelled rectangle earlier name inside
    · rw [List.mem_singleton.mp last] at inside
      contradiction
  · intro rectangle member
    rcases List.mem_append.mp member with earlier | last
    · exact arranged.ordered rectangle earlier
    · rw [List.mem_singleton.mp last]
      exact List.nil_sublist _

/-- An actor whose name is new can be added. -/
theorem addActor (arranged : diagram.Arranged) {name : String} (label : String)
    (fresh : name ∉ diagram.actorNames) :
    Arranged { diagram with actors := diagram.actors ++ [{ name, label }] } := by
  refine ⟨?_, arranged.distinctUseCases, arranged.partition, arranged.labelled,
    arranged.ordered, ?_⟩
  · refine nodup_map_concat arranged.distinctActors ?_
    rintro known member rfl
    exact fresh (List.mem_map_of_mem member)
  · intro relation member
    have known := arranged.targets relation member
    simp only [names, actorNames, useCaseNames, List.map_append, List.mem_append] at known ⊢
    exact known.imp_left .inl

/-- The names after a use case was added: those before, and its own. -/
theorem useCaseNames_concat (useCases : List UseCase) (added : UseCase) :
    (useCases ++ [added]).map UseCase.name = useCases.map UseCase.name ++ [added.name] := by
  rw [List.map_append, List.map_singleton]

/-- What a use case with a new name leaves as it is, wherever it stands: names remain
distinct and targets known. -/
theorem addUseCase_names (arranged : diagram.Arranged) {added : UseCase}
    (fresh : added.name ∉ diagram.useCaseNames) :
    ((diagram.useCases ++ [added]).map UseCase.name).Nodup ∧
      ∀ relation ∈ diagram.relations,
        relation.target ∈ diagram.actorNames ++ (diagram.useCases ++ [added]).map UseCase.name := by
  constructor
  · refine nodup_map_concat arranged.distinctUseCases ?_
    intro known member same
    exact fresh (same ▸ List.mem_map_of_mem member)
  · intro relation member
    rw [useCaseNames_concat, ← List.append_assoc]
    exact List.mem_append_left _ (arranged.targets relation member)

/-- A use case with a new name can be added outside of all rectangles. -/
theorem addOutside (arranged : diagram.Arranged) {added : UseCase}
    (fresh : added.name ∉ diagram.useCaseNames) (outside : added.rectangle = none) :
    Arranged { diagram with useCases := diagram.useCases ++ [added] } := by
  obtain ⟨distinct, targets⟩ := arranged.addUseCase_names fresh
  refine ⟨arranged.distinctActors, distinct, ?_, ?_, ?_, targets⟩
  · have same : enclosed { diagram with useCases := diagram.useCases ++ [added] } =
        diagram.enclosed := by
      simp [enclosed, outside]
    rw [same]
    exact arranged.partition
  · intro rectangle member name inside
    obtain ⟨useCase, known, own⟩ := arranged.labelled rectangle member name inside
    exact ⟨useCase, List.mem_append_left _ known, own⟩
  · intro rectangle member
    rw [useCaseNames, useCaseNames_concat]
    exact (arranged.ordered rectangle member).trans (List.sublist_append_left _ _)

/-- A use case with a new name can be added to a rectangle that lists it from then on. -/
theorem addInside (arranged : diagram.Arranged) {before after : List Rectangle}
    {rectangle : Rectangle} (split : diagram.rectangles = before ++ rectangle :: after)
    (added : UseCase) (fresh : added.name ∉ diagram.useCaseNames)
    (inside : added.rectangle = some rectangle.label) :
    Arranged { diagram with
      useCases := diagram.useCases ++ [added]
      rectangles := before ++
        { rectangle with useCases := rectangle.useCases ++ [added.name] } :: after } := by
  obtain ⟨distinct, targets⟩ := arranged.addUseCase_names fresh
  have old {other : Rectangle} (member : other ∈ before ∨ other = rectangle ∨ other ∈ after) :
      other ∈ diagram.rectangles := by
    rw [split, List.mem_append, List.mem_cons]
    exact member
  refine ⟨arranged.distinctActors, distinct, ?_, ?_, ?_, targets⟩
  · have whole := arranged.partition
    simp only [listed, split, List.flatMap_append, List.flatMap_cons] at whole
    simp only [listed, enclosed, List.flatMap_append, List.flatMap_cons, List.filter_append,
      List.map_append, List.append_assoc]
    have last : (List.filter (fun useCase : UseCase => useCase.rectangle.isSome) [added]).map
        UseCase.name = [added.name] := by
      simp [inside]
    rw [last]
    -- the new name moves from behind its rectangle to the end of the list
    refine .trans ?_ (whole.append_right [added.name])
    simp only [List.append_assoc]
    exact ((List.perm_append_comm).append_left _).append_left _
  · intro other member name listed
    have known (place : other ∈ before ∨ other = rectangle ∨ other ∈ after)
        (listed : name ∈ other.useCases) :
        ∃ useCase ∈ diagram.useCases ++ [added], useCase.name = name ∧
          useCase.rectangle = some other.label := by
      obtain ⟨useCase, isOld, own⟩ := arranged.labelled other (old place) name listed
      exact ⟨useCase, List.mem_append_left _ isOld, own⟩
    rcases List.mem_append.mp member with ahead | behind
    · exact known (.inl ahead) listed
    · rcases List.mem_cons.mp behind with rfl | behind
      · rcases List.mem_append.mp listed with earlier | last
        · obtain ⟨useCase, isOld, own⟩ :=
            arranged.labelled rectangle (old (.inr (.inl rfl))) name earlier
          exact ⟨useCase, List.mem_append_left _ isOld, own⟩
        · refine ⟨added, by simp, ?_, inside⟩
          exact (List.mem_singleton.mp last).symm
      · exact known (.inr (.inr behind)) listed
  · intro other member
    rw [useCaseNames, useCaseNames_concat]
    have kept (place : other ∈ before ∨ other = rectangle ∨ other ∈ after) :
        other.useCases.Sublist (diagram.useCaseNames ++ [added.name]) :=
      (arranged.ordered other (old place)).trans (List.sublist_append_left _ _)
    rcases List.mem_append.mp member with ahead | behind
    · exact kept (.inl ahead)
    · rcases List.mem_cons.mp behind with rfl | behind
      · exact (arranged.ordered rectangle (old (.inr (.inl rfl)))).append (List.Sublist.refl _)
      · exact kept (.inr (.inr behind))

/-- A name that the rectangles list once is listed by one of them, once, and by no other. -/
theorem exists_split_of_count {rectangles : List Rectangle} {name : String}
    (once : (rectangles.flatMap Rectangle.useCases).count name = 1) :
    ∃ before rectangle after, rectangles = before ++ rectangle :: after ∧
      rectangle.useCases.count name = 1 ∧
      ∀ other ∈ before ++ after, name ∉ other.useCases := by
  have member : name ∈ rectangles.flatMap Rectangle.useCases :=
    List.count_pos_iff.mp (by omega)
  obtain ⟨rectangle, known, own⟩ := List.mem_flatMap.mp member
  obtain ⟨before, after, rfl⟩ := List.append_of_mem known
  have positive : 0 < rectangle.useCases.count name := List.count_pos_iff.mpr own
  simp only [List.flatMap_append, List.flatMap_cons, List.count_append] at once
  refine ⟨before, rectangle, after, rfl, by omega, ?_⟩
  intro other place isListed
  have elsewhere : name ∈ (before ++ after).flatMap Rectangle.useCases :=
    List.mem_flatMap.mpr ⟨other, place, isListed⟩
  have further := List.count_pos_iff.mpr elsewhere
  rw [List.flatMap_append, List.count_append] at further
  omega

/-- Both records of where a use case stands agree. -/
theorem records (arranged : diagram.Arranged) {useCase : UseCase}
    (member : useCase ∈ diagram.useCases) : diagram.Records useCase := by
  -- a name stands for one use case only
  have same {other : UseCase} (isKnown : other ∈ diagram.useCases)
      (sameName : other.name = useCase.name) : other = useCase :=
    List.inj_on_of_nodup_map arranged.distinctUseCases isKnown member sameName
  rw [Records]
  split
  · next label inside =>
    have isEnclosed : useCase.name ∈ diagram.enclosed :=
      List.mem_map_of_mem (List.mem_filter.mpr ⟨member, by rw [inside]; rfl⟩)
    have distinct : diagram.enclosed.Nodup :=
      (List.filter_sublist.map UseCase.name).nodup arranged.distinctUseCases
    have once : diagram.listed.count useCase.name = 1 := by
      rw [arranged.partition.count_eq]
      exact List.count_eq_one_of_mem distinct isEnclosed
    obtain ⟨before, rectangle, after, split, own, others⟩ := exists_split_of_count once
    refine ⟨before, rectangle, after, split, ?_, own, others⟩
    have isListed : useCase.name ∈ rectangle.useCases := List.count_pos_iff.mp (by omega)
    have known : rectangle ∈ diagram.rectangles := by simp [split]
    obtain ⟨other, isKnown, sameName, holds⟩ := arranged.labelled rectangle known _ isListed
    rw [same isKnown sameName, inside] at holds
    exact (Option.some.inj holds).symm
  · next outside =>
    intro rectangle known isListed
    obtain ⟨other, isKnown, sameName, holds⟩ := arranged.labelled rectangle known _ isListed
    rw [same isKnown sameName, outside] at holds
    contradiction

end Arranged

namespace Progress

variable {progress : Progress}

/-- The diagram is arranged, and what is open are rectangles of it. -/
structure Sound (progress : Progress) : Prop where
  arranged : progress.diagram.Arranged
  opened : ∀ position ∈ progress.openRectangles, position < progress.diagram.rectangles.length

/-- A line that changes neither the rectangles nor which of them are open leaves those that
are open rectangles of the diagram. -/
theorem Sound.of_rectangles {next : Progress} (sound : progress.Sound)
    (arranged : next.diagram.Arranged)
    (rectangles : next.diagram.rectangles.length = progress.diagram.rectangles.length)
    (opened : next.openRectangles = progress.openRectangles) : next.Sound := by
  refine ⟨arranged, ?_⟩
  rw [opened, rectangles]
  exact sound.opened

/-- A rectangle is added and is then the innermost one. -/
theorem Sound.openRectangle (sound : progress.Sound) (label : String) :
    (progress.openRectangle label).Sound := by
  refine ⟨sound.arranged.addRectangle label, ?_⟩
  intro position member
  have grown : (progress.openRectangle label).diagram.rectangles.length =
      progress.diagram.rectangles.length + 1 := List.length_append
  rcases List.mem_cons.mp member with rfl | earlier
  · omega
  · have inside := sound.opened position earlier
    omega

/-- An actor is added only if its name is new. -/
theorem Sound.addActor (sound : progress.Sound) (name label : String) :
    (progress.addActor name label).Sound := by
  rw [Progress.addActor]
  split
  · exact sound
  · next unknown =>
    have fresh : name ∉ progress.diagram.actorNames := fun known =>
      unknown (any_key_iff.mpr known)
    exact sound.of_rectangles (sound.arranged.addActor label fresh) rfl rfl

/-- A use case is added only if its name is new, to the rectangle that is given. -/
theorem Sound.addUseCase (sound : progress.Sound) (name label : String) {place : Option Nat}
    (isOpen : ∀ position ∈ place, position < progress.diagram.rectangles.length) :
    (progress.addUseCase name label place).Sound := by
  rw [Progress.addUseCase]
  split
  · exact sound
  · next unknown =>
    have fresh : name ∉ progress.diagram.useCaseNames := fun known =>
      unknown (any_key_iff.mpr known)
    cases place with
    | none => exact sound.of_rectangles (sound.arranged.addOutside fresh rfl) rfl rfl
    | some position =>
      let enlist (rectangle : Rectangle) : Rectangle :=
        { rectangle with useCases := rectangle.useCases ++ [name] }
      obtain ⟨before, rectangle, after, split, atPosition, changed⟩ :=
        List.exists_of_modify enlist (isOpen position rfl)
      have here : progress.diagram.rectangles[position]? = some rectangle := by
        simp [split, ← atPosition]
      have added := sound.arranged.addInside split
        { name, label, rectangle := some rectangle.label } fresh rfl
      refine sound.of_rectangles ?_ (List.length_modify ..) rfl
      simpa only [Option.bind_some, here, Option.map_some, changed, enlist] using added

/-- A use case that was added is known, whether its name was new or not. -/
theorem mem_useCaseNames_addUseCase (progress : Progress) (name label : String)
    (place : Option Nat) :
    name ∈ (progress.addUseCase name label place).diagram.useCaseNames := by
  rw [Progress.addUseCase]
  split
  · next known => exact any_key_iff.mp known
  · simp [useCaseNames]

/-- What was read, with the source of a relation as an actor if it is new and looks like
one. -/
def withSource (progress : Progress) (source : String) : Progress :=
  if !progress.hasActor source && !progress.hasUseCase source && looksLikeActor source then
    progress.addActor source source
  else progress

/-- What was read, with the target of a relation as a use case if it is new. -/
def withTarget (progress : Progress) (target : String) : Progress :=
  if !progress.hasUseCase target && !progress.hasActor target then
    progress.addUseCase target target none
  else progress

/-- A relation is added behind its ends. -/
theorem addRelation_eq (progress : Progress) (source target : String) (hasHead : Bool)
    (label : String) :
    progress.addRelation source target hasHead label =
      let named := (progress.withSource source).withTarget target
      { named with diagram := { named.diagram with
          relations := named.diagram.relations ++
            [⟨source, target, if hasHead then .association else .link, label⟩] } } := rfl

/-- The source of a relation is at most a new actor. -/
theorem Sound.withSource (sound : progress.Sound) (source : String) :
    (progress.withSource source).Sound := by
  rw [Progress.withSource]
  split
  · exact sound.addActor source source
  · exact sound

/-- The target of a relation is at most a new use case, outside of all rectangles. -/
theorem Sound.withTarget (sound : progress.Sound) (target : String) :
    (progress.withTarget target).Sound := by
  rw [Progress.withTarget]
  split
  · exact sound.addUseCase target target (by simp)
  · exact sound

/-- The target of a relation is known. -/
theorem mem_names_withTarget (progress : Progress) (target : String) :
    target ∈ (progress.withTarget target).diagram.names := by
  rw [withTarget]
  split
  · exact List.mem_append_right _ (mem_useCaseNames_addUseCase ..)
  · next isKnown =>
    simp only [Bool.and_eq_true, Bool.not_eq_true', not_and_or, Bool.not_eq_false] at isKnown
    rcases isKnown with useCase | actor
    · exact List.mem_append_right _ (any_key_iff.mp useCase)
    · exact List.mem_append_left _ (any_key_iff.mp actor)

/-- A relation is added together with its ends. -/
theorem Sound.addRelation (sound : progress.Sound) (source target : String) (hasHead : Bool)
    (label : String) : (progress.addRelation source target hasHead label).Sound := by
  have named := (sound.withSource source).withTarget target
  have arranged := named.arranged
  rw [addRelation_eq]
  refine named.of_rectangles ⟨arranged.distinctActors, arranged.distinctUseCases,
    arranged.partition, arranged.labelled, arranged.ordered, ?_⟩ rfl rfl
  intro relation member
  rcases List.mem_append.mp member with earlier | last
  · exact arranged.targets relation earlier
  · rw [List.mem_singleton.mp last]
    exact mem_names_withTarget _ target

/-- Every statement keeps what was read sound. -/
theorem Sound.apply (sound : progress.Sound) (statement : Statement) :
    (progress.apply statement).Sound := by
  cases statement with
  | openRectangle label => exact sound.openRectangle label
  | actor name label => exact sound.addActor name label
  | useCase name label =>
    refine sound.addUseCase name label ?_
    intro position innermost
    exact sound.opened position (List.mem_of_head? innermost)
  | relation source target hasHead label => exact sound.addRelation source target hasHead label

/-- So does every line. -/
theorem Sound.readLine (sound : progress.Sound) (line : String) :
    (progress.readLine line).Sound := by
  rw [Progress.readLine]
  split
  · exact sound.apply _
  · split
    · refine ⟨sound.arranged, ?_⟩
      intro position member
      exact sound.opened position (List.mem_of_mem_tail member)
    · split
      · exact sound.apply _
      · exact sound

/-- Whatever lines are read, what was read is sound. -/
theorem sound_afterLines (lines : List String) :
    (lines.foldl Progress.readLine {}).Sound := by
  exact List.foldlRecOn lines Progress.readLine ⟨.empty, by simp⟩
    fun _ sound line _ => sound.readLine line

end Progress

/-- A cell links the boxes of two nodes that have the names of the ends of a relation. -/
def Joins (drawn : List (Network.Node × Cell)) (relation : Relation) (cell : Cell) : Prop :=
  ∃ source ∈ drawn, ∃ target ∈ drawn, source.1.key = .name relation.source ∧
    target.1.key = .name relation.target ∧
    cell.body = (relation.label, relationStyle, Cell.layerId, .link source.2.id target.2.id)

/-- The names of a diagram are the keys under which its nodes are drawn. -/
theorem mem_keys_iff (diagram : UseCaseDiagram) (name : String) :
    Key.name name ∈ diagram.network.nodes.map Network.Node.key ↔ name ∈ diagram.names := by
  simp [network, names, actorNames, useCaseNames, Actor.node, useCaseNode]

/-- Where all targets are known, the relations with a known source are drawn. -/
theorem drawn_of_targets (stem : String) {diagram : UseCaseDiagram}
    (targets : ∀ relation ∈ diagram.relations, relation.target ∈ diagram.names) :
    let cells := (Diagram.useCase diagram).cells stem
    ∃ drawn : List (Network.Node × Cell), drawn.map Prod.fst = diagram.network.nodes ∧
      (drawn.map Prod.snd).Sublist (cells.filter Cell.isBox) ∧
      (∀ pair ∈ drawn, pair.2.value = pair.1.label ∧ pair.2.style = pair.1.style ∧
        pair.2.parent = Cell.layerId) ∧
      List.Forall₂ (Joins drawn)
        (diagram.relations.filter fun relation => relation.source ∈ diagram.names)
        (cells.filter fun cell => !cell.isBox) := by
  intro cells
  let isRooted (link : Link) : Bool := link.source ∈ diagram.network.nodes.map Network.Node.key
  have drawnBy : Network.DrawnBy
      ⟨diagram.network.nodes.map id, diagram.network.links.filter isRooted⟩ stem cells := by
    rw [List.map_id]
    refine (cellsOf_figures stem diagram).filter ?_
    intro link _ rootless
    exact of_decide_eq_false rootless
  have links : diagram.network.links.filter isRooted =
      (diagram.relations.filter fun relation => relation.source ∈ diagram.names).map
        fun relation =>
          ⟨relation.label, relationStyle, .name relation.source, .name relation.target⟩ := by
    rw [network, List.filter_map]
    congr 2
    funext relation
    exact decide_eq_decide.mpr (diagram.mem_keys_iff relation.source)
  rw [links] at drawnBy
  have nodeOf {name : String} (known : name ∈ diagram.names) :
      ∃ node ∈ diagram.network.nodes, node.key = .name name :=
    List.mem_map.mp ((diagram.mem_keys_iff name).mpr known)
  obtain ⟨drawn, nodes, boxes, depicts, joined⟩ := drawnBy.joined fun link member => by
    obtain ⟨relation, inside, rfl⟩ := List.mem_map.mp member
    obtain ⟨isRelation, rooted⟩ := List.mem_filter.mp inside
    exact ⟨nodeOf (of_decide_eq_true rooted), nodeOf (targets relation isRelation)⟩
  have each := List.forall₂_map_left_iff.mp joined
  exact ⟨drawn, nodes, boxes, depicts, each⟩

/-- Whatever lines are read, actors have distinct names, and so have use cases. The rectangles
record where each use case stands: a use case with the label of a rectangle is listed once, by
one rectangle that has this label, and one without is listed nowhere. A rectangle lists use
cases only, in the order in which they were declared. Every relation leads to an actor or a
use case. In the drawing all of these have their boxes, and the other cells are one link for
each relation whose source is an actor or a use case, in order and between boxes with the
names of its ends. -/
theorem rectangles_hold_use_cases (stem : String) (lines : List String) :
    let diagram := (lines.foldl Progress.readLine {}).diagram
    let cells := (Diagram.useCase diagram).cells stem
    diagram.actorNames.Nodup ∧ diagram.useCaseNames.Nodup ∧
      (∀ useCase ∈ diagram.useCases, diagram.Records useCase) ∧
      (∀ rectangle ∈ diagram.rectangles,
        rectangle.useCases.Sublist diagram.useCaseNames) ∧
      (∀ relation ∈ diagram.relations, relation.target ∈ diagram.names) ∧
      ∃ drawn : List (Network.Node × Cell), drawn.map Prod.fst = diagram.network.nodes ∧
        (drawn.map Prod.snd).Sublist (cells.filter Cell.isBox) ∧
        (∀ pair ∈ drawn, pair.2.value = pair.1.label ∧ pair.2.style = pair.1.style ∧
          pair.2.parent = Cell.layerId) ∧
        List.Forall₂ (Joins drawn)
          (diagram.relations.filter fun relation => relation.source ∈ diagram.names)
          (cells.filter fun cell => !cell.isBox) := by
  intro diagram cells
  have arranged : diagram.Arranged := (Progress.sound_afterLines lines).arranged
  exact ⟨arranged.distinctActors, arranged.distinctUseCases, fun _ => arranged.records,
    arranged.ordered, arranged.targets, drawn_of_targets stem arranged.targets⟩

end Drafting.UseCaseDiagram
