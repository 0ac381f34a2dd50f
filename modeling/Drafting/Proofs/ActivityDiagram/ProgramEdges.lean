import Drafting.Proofs.ActivityDiagram.Program

/-!
# The edges of structured activities

The edges of a program that was printed and read are those of its flow. They are found
in the flat list of its steps, from what stands behind each step, so the statement is
proved for a program with any steps behind it, of which none belongs to a decision of
the program. Then the merge of a decision is the last one there is, the markers of a
decision are those within its block, and an edge that would go on behind the block goes
where the steps behind it are entered.
-/

namespace Drafting

namespace Activity

open ActivityDiagram

/-- Where an edge to the first of some steps ends. -/
def arrivalAt (activities : List Activity) (steps : List Activity) : Option Int :=
  steps.head?.bind (arrival? activities)

/-- None of the steps belongs to a decision with a number from `low` up to `high`. -/
def Apart (steps : List Activity) (low high : Int) : Prop :=
  ∀ step ∈ steps, ∀ decision, step.relatedDecision = some decision →
    decision < low ∨ high ≤ decision

/-- Steps apart from a range are apart from each part of it. -/
theorem Apart.within {steps : List Activity} {low high : Int} (apart : Apart steps low high)
    {lower upper : Int} (above : low ≤ lower) (below : upper ≤ high) :
    Apart steps lower upper := by
  intro step member decision refers
  have outside := apart step member decision refers
  omega

/-- Steps that are apart from a range do not belong to a decision in it. -/
theorem Apart.unrelated {steps : List Activity} {low high : Int} (apart : Apart steps low high)
    {decision : Int} (above : low ≤ decision) (below : decision < high) :
    ∀ step ∈ steps, step.relatedDecision ≠ some decision := by
  intro step member refers
  have outside := apart step member decision refers
  omega

/-- Two lists of steps are apart from a range if each of them is. -/
theorem Apart.append {first second : List Activity} {low high : Int} (apart : Apart first low high)
    (behind : Apart second low high) : Apart (first ++ second) low high := by
  intro step member
  rcases List.mem_append.mp member with inFirst | inSecond
  · exact apart step inFirst
  · exact behind step inSecond

/-- A step that belongs to no decision in a range may stand before steps that are apart
from it. -/
theorem Apart.cons {steps : List Activity} {low high : Int} (apart : Apart steps low high)
    {first : Activity} (own : ∀ decision, first.relatedDecision = some decision →
      decision < low ∨ high ≤ decision) : Apart (first :: steps) low high := by
  intro step member
  rcases List.mem_cons.mp member with rfl | behind
  · exact own
  · exact apart step behind

/-- A merge is the one of its decision if no later step belongs to that decision. -/
theorem mergeOf?_of_suffix {activities behind : List Activity} {number decision : Int}
    (suffix : mergeStep number (some decision) :: behind <:+ activities)
    (last : ∀ step ∈ behind, step.relatedDecision ≠ some decision) :
    mergeOf? activities decision = some number := by
  obtain ⟨before, rfl⟩ := suffix
  have none : behind.reverse.find? (fun activity =>
      activity.kind == .merge && activity.relatedDecision == some decision) = none := by
    refine List.find?_eq_none.mpr ?_
    intro step member
    have other := last step (List.mem_reverse.mp member)
    simp [other]
  rw [mergeOf?, List.reverse_append, List.reverse_cons, List.append_assoc, List.find?_append, none]
  simp [mergeStep]

/-- The edges of a decision pass over steps that are no markers of it. -/
theorem markerEdges_append {activities : List Activity} {decision : Activity}
    {steps : List Activity}
    (foreign : ∀ step ∈ steps, step.kind.isMarker = true →
      step.relatedDecision ≠ some decision.id)
    (following : List Activity) :
    markerEdges activities decision (steps ++ following) =
      markerEdges activities decision following := by
  induction steps with
  | nil => rfl
  | cons first others inductionHypothesis =>
    have passed := inductionHypothesis fun step member => foreign step (by simp [member])
    have other := foreign first (by simp)
    rw [List.cons_append, ← passed]
    cases others ++ following with
    | nil => rfl
    | cons next rest =>
      rw [markerEdges, if_neg (by simpa using other)]
      rfl

/-- Steps without a marker of a decision give it no edges. -/
theorem markerEdges_eq_nil {activities : List Activity} {decision : Activity}
    {steps : List Activity}
    (foreign : ∀ step ∈ steps, step.kind.isMarker = true →
      step.relatedDecision ≠ some decision.id) :
    markerEdges activities decision steps = [] := by
  rw [← List.append_nil steps, markerEdges_append foreign]
  rfl

/-- A marker of a decision has an edge to what stands behind it. -/
theorem markerEdges_cons {activities : List Activity} {decision marker : Activity}
    (isMarker : marker.kind.isMarker = true) (own : marker.relatedDecision = some decision.id)
    (following : List Activity) :
    markerEdges activities decision (marker :: following) =
      arc decision.id marker.label (arrivalAt activities following) ++
        markerEdges activities decision following := by
  cases following with
  | nil => rfl
  | cons next rest =>
    simp [markerEdges, isMarker, own, edge?, arc, arrivalAt, Option.toList_map]

/-- A decision has an edge to what stands behind it, and the edges of its markers. -/
theorem edgesFrom_decision {activities : List Activity} {decision : Activity}
    (isDecision : decision.kind = .decision) (following : List Activity) :
    edgesFrom activities decision following =
      arc decision.id (decision.yesBranch.getD "") (arrivalAt activities following) ++
        markerEdges activities decision following := by
  cases following with
  | nil => rfl
  | cons next rest =>
    simp [edgesFrom, isDecision, ActivityKind.isMarker, edge?, arc, arrivalAt, Option.toList_map]

/-- Another step that is drawn has an edge to what stands behind it. -/
theorem edgesFrom_plain {activities : List Activity} {step : Activity}
    (drawn : step.kind.isMarker = false) (other : step.kind ≠ .decision)
    (following : List Activity) :
    edgesFrom activities step following =
      arc step.id (step.yesBranch.getD "") (arrivalAt activities following) := by
  cases following with
  | nil => rfl
  | cons next rest =>
    simp [edgesFrom, drawn, other, edge?, arc, arrivalAt, Option.toList_map]

/-- No edge begins in a marker. -/
theorem edgesFrom_marker {activities : List Activity} {marker : Activity}
    (isMarker : marker.kind.isMarker = true) (following : List Activity) :
    edgesFrom activities marker following = [] := by
  cases following with
  | nil => rfl
  | cons next rest => simp [edgesFrom, isMarker]

end Activity

namespace ActivityDiagram

open Text Activity

mutual

/-- The steps of a sequence belong to decisions of the sequence only. -/
theorem Program.related : ∀ (program : Program) (number : Int),
    ∀ step ∈ program.steps number, ∀ decision, step.relatedDecision = some decision →
      number ≤ decision ∧ decision < number + program.size
  | .done, _ => by simp [Program.steps]
  | .item first rest, number => by
    intro step member decision refers
    rw [Program.steps] at member
    rw [Program.size]
    rcases List.mem_append.mp member with inFirst | inRest
    · have bounds := first.related number step inFirst decision refers
      omega
    · have bounds := rest.related _ step inRest decision refers
      omega

/-- The steps of an item belong to decisions of the item only. -/
theorem Item.related : ∀ (item : Item) (number : Int),
    ∀ step ∈ item.steps number, ∀ decision, step.relatedDecision = some decision →
      number ≤ decision ∧ decision < number + item.size
  | .simple simple, number => by
    intro step member decision refers
    obtain rfl : step = simple.activity number := by simpa [Item.steps] using member
    cases simple <;> simp [SimpleStep.activity] at refers
  | .choice condition label body others, number => by
    intro step member decision refers
    rw [Item.steps] at member
    rw [Item.size]
    rcases List.mem_cons.mp member with rfl | behind
    · simp [decisionStep] at refers
    rcases List.mem_append.mp behind with inBody | further
    · have bounds := body.related _ step inBody decision refers
      omega
    rcases List.mem_append.mp further with inOthers | last
    · have bounds := others.related number _ step inOthers decision refers
      omega
    · obtain rfl := List.mem_singleton.mp last
      obtain rfl : number = decision := Option.some.inj refers
      omega
  | .loop condition label body, number => by
    intro step member decision refers
    rw [Item.steps] at member
    rw [Item.size]
    rcases List.mem_cons.mp member with rfl | behind
    · simp [decisionStep] at refers
    rcases List.mem_append.mp behind with inBody | last
    · have bounds := body.related _ step inBody decision refers
      omega
    · obtain rfl := List.mem_singleton.mp last
      contradiction

/-- The steps of branches belong to their decision and to decisions of the branches
only. -/
theorem Branches.related : ∀ (others : Branches) (owner number : Int),
    ∀ step ∈ others.steps owner number, ∀ decision, step.relatedDecision = some decision →
      decision = owner ∨ (number ≤ decision ∧ decision < number + others.size)
  | .none, _, _ => by simp [Branches.steps]
  | .branch guard body others, owner, number => by
    intro step member decision refers
    rw [Branches.steps] at member
    rw [Branches.size]
    rcases List.mem_cons.mp member with rfl | behind
    · have own : some owner = some decision := by
        rw [← refers]
        cases guard <;> rfl
      exact .inl (Option.some.inj own).symm
    rcases List.mem_append.mp behind with inBody | inOthers
    · have bounds := body.related _ step inBody decision refers
      exact .inr (by omega)
    · rcases others.related owner _ step inOthers decision refers with own | bounds
      · exact .inl own
      · exact .inr (by omega)

end

/-- A sequence is apart from the numbers before it. -/
theorem Program.apart_steps (program : Program) {low high number : Int} (before : high ≤ number) :
    Apart (program.steps number) low high := by
  intro step member decision refers
  have bounds := program.related number step member decision refers
  omega

/-- Branches are apart from the numbers between their decision and them. -/
theorem Branches.apart_steps (others : Branches) {owner low high number : Int}
    (behind : owner < low) (before : high ≤ number) :
    Apart (others.steps owner number) low high := by
  intro step member decision refers
  have bounds := others.related owner number step member decision refers
  omega

/-- A marker of a branch is a marker of its decision and has the label of the branch. -/
theorem Guard.marker_facts (guard : Guard) (decision number : Int) :
    (guard.marker decision number).kind.isMarker = true ∧
      (guard.marker decision number).relatedDecision = some decision ∧
      (guard.marker decision number).label = guard.label := by
  cases guard <;> exact ⟨rfl, rfl, rfl⟩

/-- An edge to an item ends at its first step. -/
theorem Item.arrivalAt_steps (item : Item) (number : Int) (activities following : List Activity) :
    arrivalAt activities (item.steps number ++ following) = some number := by
  cases item with
  | simple step => cases step <;> rfl
  | choice condition label body others => rfl
  | loop condition label body => rfl

/-- An edge to a sequence ends where the sequence is entered. -/
theorem Program.arrivalAt_steps (program : Program) (number : Int)
    (activities following : List Activity) :
    arrivalAt activities (program.steps number ++ following) =
      program.entry number (arrivalAt activities following) := by
  cases program with
  | done => rfl
  | item first rest =>
    rw [Program.steps, List.append_assoc, first.arrivalAt_steps, Program.entry]

/-- An edge to branches, or to the merge behind them, ends at the merge. -/
theorem Branches.arrivalAt_steps (others : Branches) {activities following : List Activity}
    {decision merge : Int} (closes : mergeOf? activities decision = some merge)
    (behind : arrivalAt activities following = some merge) (number : Int) :
    arrivalAt activities (others.steps decision number ++ following) = some merge := by
  cases others with
  | none => exact behind
  | branch guard body rest =>
    obtain ⟨isMarker, own, _⟩ := guard.marker_facts decision number
    simp [Branches.steps, arrivalAt, arrival?, isMarker, own, closes]

/-- The edges of a decision to its further branches. -/
theorem Branches.markerEdges_steps {activities following : List Activity} {decision : Activity}
    {owner merge : Int} (id : decision.id = owner)
    (closes : mergeOf? activities owner = some merge)
    (behind : arrivalAt activities following = some merge) :
    ∀ (others : Branches) (number : Int), owner < number →
      markerEdges activities decision (others.steps owner number ++ following) =
        others.arcs owner number merge ++ markerEdges activities decision following
  | .none, _, _ => rfl
  | .branch guard body others, number, later => by
    obtain ⟨isMarker, own, label⟩ := guard.marker_facts owner number
    have apart : Apart (body.steps (number + 1)) owner number := body.apart_steps (by omega)
    have rest := others.markerEdges_steps id closes behind (number + 1 + body.size) (by omega)
    have entered : arrivalAt activities (body.steps (number + 1) ++
        (others.steps owner (number + 1 + body.size) ++ following)) =
        body.entry (number + 1) (some merge) := by
      rw [body.arrivalAt_steps, others.arrivalAt_steps closes behind]
    rw [Branches.steps, List.cons_append, List.append_assoc, markerEdges_cons isMarker
      (own.trans (by rw [id])), entered, label, id,
      markerEdges_append (fun step member _ => id ▸ apart.unrelated (by omega) later step member),
      rest, Branches.arcs, List.append_assoc]

/-- A simple step is drawn, and is no decision. -/
theorem SimpleStep.activity_facts (step : SimpleStep) (number : Int) :
    (step.activity number).id = number ∧ (step.activity number).kind.isMarker = false ∧
      (step.activity number).kind ≠ .decision ∧ (step.activity number).yesBranch = none := by
  cases step <;> exact ⟨rfl, rfl, by simp [activity], rfl⟩

/-- A step that is neither a marker nor a decision goes on behind it. -/
theorem edgesAlong_plain {activities : List Activity} {step : Activity}
    (drawn : step.kind.isMarker = false) (other : step.kind ≠ .decision)
    (unlabelled : step.yesBranch = none) (following : List Activity) :
    edgesAlong activities (step :: following) =
      arc step.id "" (arrivalAt activities following) ++ edgesAlong activities following := by
  rw [edgesAlong, edgesFrom_plain drawn other, unlabelled]
  rfl

/-- A merge goes on behind it. -/
theorem edgesAlong_mergeStep (activities : List Activity) (number : Int) (decision : Option Int)
    (following : List Activity) :
    edgesAlong activities (mergeStep number decision :: following) =
      arc number "" (arrivalAt activities following) ++ edgesAlong activities following :=
  edgesAlong_plain rfl (by simp [mergeStep]) rfl following

/-- An edge to a merge ends there. -/
theorem arrivalAt_mergeStep (activities : List Activity) (number : Int) (decision : Option Int)
    (following : List Activity) :
    arrivalAt activities (mergeStep number decision :: following) = some number := rfl

/-- A decision goes on at its first branch and at the branches of its markers. -/
theorem edgesAlong_decisionStep (activities : List Activity) (number : Int)
    (condition label : Word) (following : List Activity) :
    edgesAlong activities (decisionStep number condition label :: following) =
      arc number label.text (arrivalAt activities following) ++
        (markerEdges activities (decisionStep number condition label) following ++
          edgesAlong activities following) := by
  rw [edgesAlong, edgesFrom_decision rfl, List.append_assoc]
  rfl

/-- The edges of a decision to its further branches are found within its block. -/
theorem markerEdges_block {activities following : List Activity} {number merge : Int}
    (closes : mergeOf? activities number = some merge)
    (foreign : ∀ step ∈ following, step.relatedDecision ≠ some number) (condition label : Word)
    (body : Program) (others : Branches) :
    markerEdges activities (decisionStep number condition label)
        (body.steps (number + 1) ++
          (others.steps number (number + 1 + body.size) ++
            mergeStep merge (some number) :: following)) =
      others.arcs number (number + 1 + body.size) merge := by
  have entered := arrivalAt_mergeStep activities merge (some number) following
  have own : (decisionStep number condition label).id = number := rfl
  have apart : Apart (body.steps (number + 1)) number (number + 1) :=
    body.apart_steps (by omega)
  have unrelated := apart.unrelated (Int.le_refl number) (by omega)
  -- The merge belongs to the decision, too, but it is no marker.
  have outside : markerEdges activities (decisionStep number condition label)
      (mergeStep merge (some number) :: following) = [] := by
    refine markerEdges_eq_nil ?_
    intro step member isMarker
    rcases List.mem_cons.mp member with rfl | behind
    · contradiction
    · exact foreign step behind
  rw [markerEdges_append fun step member _ => unrelated step member,
    others.markerEdges_steps own closes entered _ (by omega), outside, List.append_nil]

/-- The decision of a loop has no further branches. -/
theorem markerEdges_loop {activities following : List Activity} {number : Int}
    (apart : Apart following number (number + 1)) (condition label : Word) (body : Program) :
    markerEdges activities (decisionStep number condition label)
      (body.steps (number + 1) ++ following) = [] := by
  have all : Apart (body.steps (number + 1) ++ following) number (number + 1) :=
    (body.apart_steps (by omega)).append apart
  have unrelated := all.unrelated (Int.le_refl number) (by omega)
  exact markerEdges_eq_nil fun step member _ => unrelated step member

variable {activities : List Activity}

mutual

/-- The edges along a sequence are those of its flow, where it goes on behind it. -/
theorem Program.edgesAlong_steps : ∀ (program : Program) (number : Int)
    {following : List Activity}, program.steps number ++ following <:+ activities →
    Apart following number (number + program.size) →
    edgesAlong activities (program.steps number ++ following) =
      program.flow number (arrivalAt activities following) ++ edgesAlong activities following
  | .done, _, _, _, _ => rfl
  | .item first rest, number, following, suffix, apart => by
    rw [Program.steps, List.append_assoc] at suffix
    rw [Program.size] at apart
    have restSuffix : rest.steps (number + first.size) ++ following <:+ activities :=
      (List.suffix_append _ _).trans suffix
    have restApart : Apart following (number + first.size) (number + first.size + rest.size) :=
      apart.within (by omega) (by omega)
    have firstApart : Apart (rest.steps (number + first.size) ++ following) number
        (number + first.size) :=
      (rest.apart_steps (by omega)).append (apart.within (by omega) (by omega))
    rw [Program.steps, List.append_assoc, first.edgesAlong_steps number suffix firstApart,
      rest.edgesAlong_steps _ restSuffix restApart, rest.arrivalAt_steps, Program.flow]
    simp only [List.append_assoc]

/-- The edges along an item are those within it and the edge from its end. -/
theorem Item.edgesAlong_steps : ∀ (item : Item) (number : Int) {following : List Activity},
    item.steps number ++ following <:+ activities →
    Apart following number (number + item.size) →
    edgesAlong activities (item.steps number ++ following) =
      item.flow number ++ (arc (item.exit number) "" (arrivalAt activities following) ++
        edgesAlong activities following)
  | .simple step, number, following, _, _ => by
    obtain ⟨id, drawn, other, unlabelled⟩ := step.activity_facts number
    rw [Item.exit_simple, Item.steps, List.singleton_append,
      edgesAlong_plain drawn other unlabelled, id]
    rfl
  | .choice condition label body others, number, following, suffix, apart => by
    let merge := number + 1 + body.size + others.size
    let ended := mergeStep merge (some number) :: following
    have flat : (Item.choice condition label body others).steps number ++ following =
        decisionStep number condition label :: (body.steps (number + 1) ++
          (others.steps number (number + 1 + body.size) ++ ended)) := by
      simp [Item.steps, ended, merge]
    rw [flat] at suffix
    rw [Item.size] at apart
    have bodySuffix := (List.suffix_cons _ _).trans suffix
    have othersSuffix := (List.suffix_append _ _).trans bodySuffix
    have endedSuffix := (List.suffix_append _ _).trans othersSuffix
    -- The steps behind the block do not belong to the decision, so its merge is the one
    -- that was just found. The body is apart from the other branches since these belong
    -- to the decision, which comes before the body, or to decisions of their own.
    have foreign := apart.unrelated (Int.le_refl number) (by omega)
    have closes : mergeOf? activities number = some merge :=
      mergeOf?_of_suffix endedSuffix foreign
    have endedApart : Apart ended (number + 1) (number + 1 + body.size + others.size) := by
      refine (apart.within (by omega) (by omega)).cons ?_
      intro owner refers
      obtain rfl : number = owner := Option.some.inj refers
      omega
    have othersApart : Apart (others.steps number (number + 1 + body.size) ++ ended)
        (number + 1) (number + 1 + body.size) :=
      (others.apart_steps (by omega) (by omega)).append (endedApart.within (by omega) (by omega))
    have entered := arrivalAt_mergeStep activities merge (some number) following
    have markers := markerEdges_block closes foreign condition label body others
    have bodyEdges := body.edgesAlong_steps (number + 1) bodySuffix othersApart
    have othersEdges := others.edgesAlong_steps number (number + 1 + body.size) merge
      othersSuffix (endedApart.within (by omega) (by omega)) (by omega) closes entered
    rw [others.arrivalAt_steps closes entered, othersEdges, edgesAlong_mergeStep] at bodyEdges
    rw [flat, edgesAlong_decisionStep, markers, bodyEdges, body.arrivalAt_steps,
      others.arrivalAt_steps closes entered, Item.exit_choice, Item.flow]
    simp only [List.append_assoc]
    rfl
  | .loop condition label body, number, following, suffix, apart => by
    let merge := number + 1 + body.size
    have flat : (Item.loop condition label body).steps number ++ following =
        decisionStep number condition label ::
          (body.steps (number + 1) ++ mergeStep merge none :: following) := by
      simp [Item.steps, merge]
    rw [flat] at suffix
    rw [Item.size] at apart
    have endedApart : Apart (mergeStep merge none :: following) number (number + 1 + body.size) :=
      (apart.within (by omega) (by omega)).cons (by simp [mergeStep])
    have bodyEdges := body.edgesAlong_steps (number + 1) ((List.suffix_cons _ _).trans suffix)
      (endedApart.within (by omega) (by omega))
    rw [arrivalAt_mergeStep, edgesAlong_mergeStep] at bodyEdges
    rw [flat, edgesAlong_decisionStep, markerEdges_loop (endedApart.within (by omega) (by omega)),
      bodyEdges, body.arrivalAt_steps, arrivalAt_mergeStep, Item.exit_loop, Item.flow]
    simp only [List.append_assoc, List.nil_append]
    rfl

/-- The edges along branches are those within them, where they go on at the merge. -/
theorem Branches.edgesAlong_steps : ∀ (others : Branches) (decision number merge : Int)
    {following : List Activity}, others.steps decision number ++ following <:+ activities →
    Apart following number (number + others.size) → decision < number →
    mergeOf? activities decision = some merge → arrivalAt activities following = some merge →
    edgesAlong activities (others.steps decision number ++ following) =
      others.flow number merge ++ edgesAlong activities following
  | .none, _, _, _, _, _, _, _, _, _ => rfl
  | .branch guard body others, decision, number, merge, following, suffix, apart, later, closes,
      behind => by
    obtain ⟨isMarker, _, _⟩ := guard.marker_facts decision number
    rw [Branches.steps, List.cons_append, List.append_assoc] at suffix
    rw [Branches.size] at apart
    have bodySuffix := (List.suffix_cons _ _).trans suffix
    have othersSuffix := (List.suffix_append _ _).trans bodySuffix
    have bodyApart : Apart (others.steps decision (number + 1 + body.size) ++ following)
        (number + 1) (number + 1 + body.size) :=
      (others.apart_steps (by omega) (by omega)).append (apart.within (by omega) (by omega))
    have othersApart : Apart following (number + 1 + body.size)
        (number + 1 + body.size + others.size) := apart.within (by omega) (by omega)
    have bodyEdges := body.edgesAlong_steps (number + 1) bodySuffix bodyApart
    have othersEdges := others.edgesAlong_steps decision (number + 1 + body.size) merge othersSuffix
      othersApart (by omega) closes behind
    rw [others.arrivalAt_steps closes behind, othersEdges] at bodyEdges
    rw [Branches.steps, List.cons_append, List.append_assoc, edgesAlong, edgesFrom_marker isMarker,
      List.nil_append, bodyEdges, Branches.flow, List.append_assoc]

end

/-- The edges of a program that was printed and read are those of its flow, in the order
of their sources, and its steps are numbered in the order of its lines. -/
theorem edges_of_program (program : Program) :
    (ofLines (program.lines.map Line.text)).activities = program.steps 0 ∧
      (ofLines (program.lines.map Line.text)).edges = program.flow 0 none := by
  have steps := activities_of_program program
  refine ⟨steps, ?_⟩
  have apart : Apart [] (0 : Int) (0 + program.size) := by
    intro step member
    contradiction
  have whole : program.steps 0 ++ [] <:+ program.steps 0 := by simp
  have along := program.edgesAlong_steps 0 whole apart
  have found : (ofLines (program.lines.map Line.text)).edges =
      Activity.edges (ofLines (program.lines.map Line.text)).activities := rfl
  rw [found, steps, Activity.edges]
  simpa [arrivalAt, edgesAlong] using along

/-- An empty branch leads to the merge of its own decision. -/
example (condition label other : Word) :
    (Program.item (.choice condition label .done (.branch (.otherwise other) .done .none))
      .done).flow 0 none = [⟨0, 2, label.text⟩, ⟨0, 2, other.text⟩] := rfl

end ActivityDiagram

end Drafting
