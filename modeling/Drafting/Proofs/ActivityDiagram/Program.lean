import Drafting.Proofs.ActivityDiagram.Printing

/-!
# Structured activities

A program is a sequence of simple steps, decisions with any number of branches, and
loops, nested to any depth. Its steps are numbered in the order of its lines, where a
decision, each further branch and each merge takes a number of its own. The edges of
its flow follow from its structure alone: they lead from the end of each item to the
next one, from a decision to each of its branches, and from each branch to the merge.

The main statement is that reading the printed lines of a program yields its steps.
-/

namespace Drafting.ActivityDiagram

open Text

/-- A step that neither opens nor closes a block. -/
inductive SimpleStep where
  | start
  | stop
  | fork
  | action (label : Word)

/-- What introduces a further branch of a decision. -/
inductive Guard where
  | elseIf (condition label : Word)
  | otherwise (label : Word)

mutual

/-- Items that follow each other. -/
inductive Program where
  | done
  | item (first : Item) (rest : Program)

/-- A simple step, a decision with its first branch and the others, or a loop. -/
inductive Item where
  | simple (step : SimpleStep)
  | choice (condition label : Word) (body : Program) (others : Branches)
  | loop (condition label : Word) (body : Program)

/-- The branches of a decision after the first one. -/
inductive Branches where
  | none
  | branch (guard : Guard) (body : Program) (others : Branches)

end

/-- The line of a simple step. -/
def SimpleStep.line : SimpleStep → Line
  | start => .start
  | stop => .stop
  | fork => .fork
  | action label => .action label

/-- The line that introduces a branch. -/
def Guard.line : Guard → Line
  | elseIf condition label => .elseIf condition label
  | otherwise label => .elseBranch label

/-- The label of a branch. -/
def Guard.label : Guard → String
  | elseIf _ label => label.text
  | otherwise label => label.text

mutual

/-- The lines of a sequence. -/
def Program.lines : Program → List Line
  | .done => []
  | .item first rest => first.lines ++ rest.lines

/-- The lines of an item, up to the one that closes its block. -/
def Item.lines : Item → List Line
  | .simple step => [step.line]
  | .choice condition label body others =>
    .ifThen condition label :: (body.lines ++ (others.lines ++ [.endIf]))
  | .loop condition label body => .whileLoop condition label :: (body.lines ++ [.endWhile])

/-- The lines of branches. -/
def Branches.lines : Branches → List Line
  | .none => []
  | .branch guard body others => guard.line :: (body.lines ++ others.lines)

end

mutual

/-- How many numbers a sequence takes. -/
def Program.size : Program → Nat
  | .done => 0
  | .item first rest => first.size + rest.size

/-- How many numbers an item takes. -/
def Item.size : Item → Nat
  | .simple _ => 1
  | .choice _ _ body others => 1 + body.size + others.size + 1
  | .loop _ _ body => 1 + body.size + 1

/-- How many numbers branches take. -/
def Branches.size : Branches → Nat
  | .none => 0
  | .branch _ body others => 1 + body.size + others.size

end

/-- The step of a given number. -/
def SimpleStep.activity (number : Int) : SimpleStep → Activity
  | start => { id := number, kind := .start, label := "Start" }
  | stop => { id := number, kind := .stop, label := "End" }
  | fork => { id := number, kind := .fork }
  | action label => { id := number, kind := .action, label := label.text }

/-- The marker of a given number, for a branch of a given decision. -/
def Guard.marker (decision number : Int) : Guard → Activity
  | elseIf condition label =>
    { id := number, kind := .elseifMarker, label := label.text, condition := some condition.text
      relatedDecision := some decision }
  | otherwise label =>
    { id := number, kind := .elseMarker, label := label.text, relatedDecision := some decision }

/-- The decision of a given number, whose first branch has a given label. -/
def decisionStep (number : Int) (condition label : Word) : Activity :=
  { id := number, kind := .decision, label := condition.text, yesBranch := some label.text }

/-- The merge of a given number, which closes the block of a decision or a loop. -/
def mergeStep (number : Int) (decision : Option Int) : Activity :=
  { id := number, kind := .merge, relatedDecision := decision }

/-- The number of the last step of an item. In a block that is its merge. -/
def Item.exit (number : Int) (item : Item) : Int := number + item.size - 1

mutual

/-- The steps of a sequence, numbered from a given number on. -/
def Program.steps (number : Int) : Program → List Activity
  | .done => []
  | .item first rest => first.steps number ++ rest.steps (number + first.size)

/-- The steps of an item. A loop has a merge that belongs to no decision. -/
def Item.steps (number : Int) : Item → List Activity
  | .simple step => [step.activity number]
  | .choice condition label body others =>
    decisionStep number condition label ::
      (body.steps (number + 1) ++ (others.steps number (number + 1 + body.size) ++
        [mergeStep (number + 1 + body.size + others.size) (some number)]))
  | .loop condition label body =>
    decisionStep number condition label ::
      (body.steps (number + 1) ++ [mergeStep (number + 1 + body.size) none])

/-- The steps of branches of a given decision. -/
def Branches.steps (decision number : Int) : Branches → List Activity
  | .none => []
  | .branch guard body others =>
    guard.marker decision number ::
      (body.steps (number + 1) ++ others.steps decision (number + 1 + body.size))

end

/-- Where a sequence is entered: at its first step, or behind it where it is empty. -/
def Program.entry (number : Int) (behind : Option Int) : Program → Option Int
  | .done => behind
  | .item _ _ => some number

/-- The edge from one number to another, if there is a number to go to. -/
def arc (source : Int) (label : String) (target : Option Int) : List ActivityEdge :=
  target.toList.map fun target => { source, target, label }

/-- The edges from a decision to the entries of its branches after the first one. An
empty branch is entered at the merge. -/
def Branches.arcs (decision number merge : Int) : Branches → List ActivityEdge
  | .none => []
  | .branch guard body others =>
    arc decision guard.label (body.entry (number + 1) (some merge)) ++
      others.arcs decision (number + 1 + body.size) merge

mutual

/-- The edges of a sequence that goes on at a given number, if it goes on at all. -/
def Program.flow (number : Int) (behind : Option Int) : Program → List ActivityEdge
  | .done => []
  | .item first rest =>
    first.flow number ++
      (arc (first.exit number) "" (rest.entry (number + first.size) behind) ++
        rest.flow (number + first.size) behind)

/-- The edges within an item. The branches of a decision and the body of a loop go on
at its merge. -/
def Item.flow (number : Int) : Item → List ActivityEdge
  | .simple _ => []
  | .choice _ label body others =>
    let merge := number + 1 + body.size + others.size
    arc number label.text (body.entry (number + 1) (some merge)) ++
      (others.arcs number (number + 1 + body.size) merge ++
        (body.flow (number + 1) (some merge) ++ others.flow (number + 1 + body.size) merge))
  | .loop _ label body =>
    let merge := number + 1 + body.size
    arc number label.text (body.entry (number + 1) (some merge)) ++
      body.flow (number + 1) (some merge)

/-- The edges within branches that go on at a given merge. -/
def Branches.flow (number merge : Int) : Branches → List ActivityEdge
  | .none => []
  | .branch _ body others =>
    body.flow (number + 1) (some merge) ++ others.flow (number + 1 + body.size) merge

end

/-- A simple step is its own end. -/
theorem Item.exit_simple (step : SimpleStep) (number : Int) :
    (Item.simple step).exit number = number := by
  rw [Item.exit, Item.size]
  omega

/-- A decision ends at its merge. -/
theorem Item.exit_choice (condition label : Word) (body : Program) (others : Branches)
    (number : Int) :
    (Item.choice condition label body others).exit number =
      number + 1 + body.size + others.size := by
  rw [Item.exit, Item.size]
  omega

/-- A loop ends at its merge. -/
theorem Item.exit_loop (condition label : Word) (body : Program) (number : Int) :
    (Item.loop condition label body).exit number = number + 1 + body.size := by
  rw [Item.exit, Item.size]
  omega

mutual

/-- A sequence has as many steps as it takes numbers. -/
theorem Program.length_steps : ∀ (program : Program) (number : Int),
    (program.steps number).length = program.size
  | .done, _ => rfl
  | .item first rest, number => by
    rw [Program.steps, List.length_append, first.length_steps, rest.length_steps, Program.size]

/-- An item has as many steps as it takes numbers. -/
theorem Item.length_steps : ∀ (item : Item) (number : Int),
    (item.steps number).length = item.size
  | .simple _, _ => rfl
  | .choice _ _ body others, number => by
    simp only [Item.steps, List.length_cons, List.length_append, List.length_nil,
      body.length_steps, others.length_steps, Item.size]
    omega
  | .loop _ _ body, number => by
    simp only [Item.steps, List.length_cons, List.length_append, List.length_nil,
      body.length_steps, Item.size]
    omega

/-- Branches have as many steps as they take numbers. -/
theorem Branches.length_steps : ∀ (branches : Branches) (decision number : Int),
    (branches.steps decision number).length = branches.size
  | .none, _, _ => rfl
  | .branch _ body others, decision, number => by
    simp only [Branches.steps, List.length_cons, List.length_append, body.length_steps,
      others.length_steps, Branches.size]
    omega

end

/-- What was read of a source without lanes, partitions and notes. -/
def Progress.reading (activities : List Activity) (decisions : List OpenDecision) : Progress :=
  { diagram := { activities }, decisions }

/-- What some lines make of the steps and the open decisions before them. -/
def Progress.readAll (lines : List Line) (progress : Progress) : Progress :=
  (lines.map Line.statement).foldl apply progress

namespace Progress

/-- Lines are read one after the other. -/
theorem readAll_cons (line : Line) (lines : List Line) (progress : Progress) :
    readAll (line :: lines) progress = readAll lines (progress.apply line.statement) := rfl

/-- Lines are read after those before them. -/
theorem readAll_append (first second : List Line) (progress : Progress) :
    readAll (first ++ second) progress = readAll second (readAll first progress) := by
  rw [readAll, readAll, readAll, List.map_append, List.foldl_append]

/-- The line of a simple step adds the step. -/
theorem apply_simple (step : SimpleStep) (activities : List Activity)
    (decisions : List OpenDecision) :
    (reading activities decisions).apply step.line.statement =
      reading (activities ++ [step.activity activities.length]) decisions := by
  cases step <;> rfl

/-- The line of a branch adds its marker to the innermost decision. -/
theorem apply_guard (guard : Guard) (activities : List Activity) (decision : Int)
    (branches : List Branch) (outer : List OpenDecision) :
    ∃ seen, (reading activities (⟨decision, branches⟩ :: outer)).apply guard.line.statement =
      reading (activities ++ [guard.marker decision activities.length])
        (⟨decision, seen⟩ :: outer) := by
  cases guard <;> exact ⟨_, rfl⟩

/-- The first line of a decision adds the decision and opens it. -/
theorem apply_ifThen (condition label : Word) (activities : List Activity)
    (decisions : List OpenDecision) :
    ∃ seen, (reading activities decisions).apply (Line.ifThen condition label).statement =
      reading (activities ++ [decisionStep activities.length condition label])
        (⟨activities.length, seen⟩ :: decisions) := ⟨_, rfl⟩

/-- The last line of a decision adds its merge and closes it. -/
theorem apply_endIf (activities : List Activity) (decision : Int) (branches : List Branch)
    (outer : List OpenDecision) :
    (reading activities (⟨decision, branches⟩ :: outer)).apply Line.endIf.statement =
      reading (activities ++ [mergeStep activities.length (some decision)]) outer := rfl

/-- The first line of a loop adds a decision that is not opened. -/
theorem apply_whileLoop (condition label : Word) (activities : List Activity)
    (decisions : List OpenDecision) :
    (reading activities decisions).apply (Line.whileLoop condition label).statement =
      reading (activities ++ [decisionStep activities.length condition label]) decisions := rfl

/-- The last line of a loop adds a merge of no decision. -/
theorem apply_endWhile (activities : List Activity) (decisions : List OpenDecision) :
    (reading activities decisions).apply Line.endWhile.statement =
      reading (activities ++ [mergeStep activities.length none]) decisions := rfl

end Progress

/-- The next number behind a step and a sequence. -/
theorem number_behind (activities : List Activity) (step : Activity) (body : Program)
    (number : Int) :
    ((activities ++ step :: body.steps number).length : Int) =
      activities.length + 1 + body.size := by
  rw [List.length_append, List.length_cons, body.length_steps]
  omega

namespace Progress

/-- Reading a sequence adds its steps. -/
def AddsSteps (program : Program) : Prop :=
  ∀ activities decisions, readAll program.lines (reading activities decisions) =
    reading (activities ++ program.steps activities.length) decisions

/-- A sequence is read behind the step that introduces it. -/
theorem AddsSteps.behind {body : Program} (adds : AddsSteps body) (step : Activity)
    (rest : List Line) (activities : List Activity) (decisions : List OpenDecision) :
    readAll (body.lines ++ rest) (reading (activities ++ [step]) decisions) =
      readAll rest
        (reading (activities ++ step :: body.steps (activities.length + 1)) decisions) := by
  have number : ((activities ++ [step]).length : Int) = activities.length + 1 := by simp
  rw [readAll_append, adds, number, List.append_assoc, List.singleton_append]

end Progress

open Progress

mutual

/-- Reading the lines of a sequence adds its steps and leaves the decisions open that
were open before. -/
theorem Program.addsSteps : ∀ program : Program, AddsSteps program
  | .done => by
    intro activities decisions
    simp [Program.lines, Program.steps, readAll]
  | .item first rest => by
    intro activities decisions
    have number : ((activities ++ first.steps activities.length).length : Int) =
        activities.length + first.size := by
      rw [List.length_append, first.length_steps, Int.natCast_add]
    rw [Program.lines, readAll_append, first.readAll_lines, rest.addsSteps, number, Program.steps,
      List.append_assoc]

/-- Reading the lines of an item adds its steps. -/
theorem Item.readAll_lines : ∀ (item : Item) (activities : List Activity)
    (decisions : List OpenDecision),
    readAll item.lines (reading activities decisions) =
      reading (activities ++ item.steps activities.length) decisions
  | .simple step, activities, decisions => apply_simple step activities decisions
  | .choice condition label body others, activities, decisions => by
    obtain ⟨begun, opened⟩ := apply_ifThen condition label activities decisions
    obtain ⟨seen, read⟩ := others.readAll_lines
      (activities ++ decisionStep activities.length condition label ::
        body.steps (activities.length + 1)) activities.length begun decisions
    have number := number_behind activities (decisionStep activities.length condition label) body
      (activities.length + 1)
    have closing : ((activities ++ decisionStep activities.length condition label ::
        body.steps (activities.length + 1) ++
        others.steps activities.length (activities.length + 1 + body.size)).length : Int) =
        activities.length + 1 + body.size + others.size := by
      rw [List.length_append, others.length_steps, Int.natCast_add, number]
    rw [Item.lines, readAll_cons, opened, body.addsSteps.behind, readAll_append, read, number,
      readAll_cons, apply_endIf, closing, Item.steps]
    simp [readAll]
  | .loop condition label body, activities, decisions => by
    have closing := number_behind activities (decisionStep activities.length condition label) body
      (activities.length + 1)
    rw [Item.lines, readAll_cons, apply_whileLoop, body.addsSteps.behind, readAll_cons,
      apply_endWhile, closing, Item.steps]
    simp [readAll]

/-- Reading the lines of branches adds their steps to the innermost decision. -/
theorem Branches.readAll_lines : ∀ (others : Branches) (activities : List Activity)
    (decision : Int) (branches : List Branch) (outer : List OpenDecision),
    ∃ seen, readAll others.lines (reading activities (⟨decision, branches⟩ :: outer)) =
      reading (activities ++ others.steps decision activities.length) (⟨decision, seen⟩ :: outer)
  | .none, activities, decision, branches, outer =>
    ⟨branches, by simp [Branches.lines, Branches.steps, readAll]⟩
  | .branch guard body others, activities, decision, branches, outer => by
    obtain ⟨marked, begun⟩ := apply_guard guard activities decision branches outer
    obtain ⟨seen, read⟩ := others.readAll_lines
      (activities ++ guard.marker decision activities.length ::
        body.steps (activities.length + 1)) decision marked outer
    have number := number_behind activities (guard.marker decision activities.length) body
      (activities.length + 1)
    refine ⟨seen, ?_⟩
    rw [Branches.lines, readAll_cons, begun, body.addsSteps.behind, read, number, Branches.steps,
      List.append_assoc, List.cons_append]

end

/-- The steps of a program that was printed and read are its steps, numbered from
zero on. -/
theorem activities_of_program (program : Program) :
    (ofLines (program.lines.map Line.text)).activities = program.steps 0 := by
  have read : readAll program.lines (reading [] []) = reading (program.steps 0) [] :=
    program.addsSteps [] []
  rw [ofLines_printed]
  exact congrArg (fun progress => progress.finish.activities) read

end Drafting.ActivityDiagram
