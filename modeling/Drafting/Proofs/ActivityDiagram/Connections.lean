import Mathlib.Logic.Relation
import Drafting.Proofs.ActivityDiagram.Nesting

/-!
# Where edges lead

An edge of ordered steps leads from a step that is drawn to a later one that is
drawn: to the next step, to the step behind one of its markers, or from there on
to a merge, which stands behind every marker of its decision. And every step that
is drawn is reached from the first one, since the step before it, or the decision
of the marker before it, leads to it.
-/

namespace Drafting

namespace Activity

/-- A step may be followed by another under a label: by the one directly behind it
or, for a decision, by the one behind each of its markers. -/
inductive Follows (activities : List Activity) (source next : Activity) : String → Prop where
  | directly (before after : List Activity)
      (split : activities = before ++ source :: next :: after) :
      Follows activities source next (source.yesBranch.getD "")
  | branch (before between after : List Activity) (marker : Activity)
      (split : activities = before ++ source :: (between ++ marker :: next :: after))
      (isDecision : source.kind = .decision) (isMarker : marker.kind.isMarker = true)
      (own : marker.relatedDecision = some source.id) :
      Follows activities source next marker.label

/-- The edges of a decision lead to the steps behind its markers. -/
theorem mem_markerEdges {activities following : List Activity} {decision : Activity}
    {edge : ActivityEdge} :
    edge ∈ markerEdges activities decision following ↔
      ∃ between marker next after, following = between ++ marker :: next :: after ∧
        marker.kind.isMarker = true ∧ marker.relatedDecision = some decision.id ∧
        edge? activities decision next marker.label = some edge := by
  induction following with
  | nil => simp [markerEdges]
  | cons first others inductionHypothesis =>
    cases others with
    | nil =>
      constructor
      · simp [markerEdges]
      · rintro ⟨between, marker, next, after, split, _⟩
        have length := congrArg List.length split
        simp only [List.length_cons, List.length_nil, List.length_append] at length
        omega
    | cons second rest =>
      rw [markerEdges, List.mem_append, inductionHypothesis]
      constructor
      · rintro (here | ⟨between, marker, next, after, split, found⟩)
        · split at here
          · next own =>
            simp only [Bool.and_eq_true, beq_iff_eq] at own
            exact ⟨[], first, second, rest, rfl, own.1, own.2, by simpa using here⟩
          · simp at here
        · exact ⟨first :: between, marker, next, after, by simp [split], found⟩
      · rintro ⟨between, marker, next, after, split, isMarker, own, found⟩
        cases between with
        | nil =>
          obtain ⟨rfl, rfl, rfl⟩ : first = marker ∧ second = next ∧ rest = after := by
            simpa using split
          exact .inl (by simp [isMarker, own, found])
        | cons head tail =>
          have later : second :: rest = tail ++ marker :: next :: after := by
            simpa using (List.cons.inj split).2
          exact .inr ⟨tail, marker, next, after, later, isMarker, own, found⟩

/-- The edges of a step that is drawn lead to the steps that may follow it, which
are found in the list behind it. -/
theorem mem_edgesFrom {activities following : List Activity} {current : Activity}
    {edge : ActivityEdge} :
    edge ∈ edgesFrom activities current following ↔
      current.kind.isMarker = false ∧
        ((∃ next after, following = next :: after ∧
            edge? activities current next (current.yesBranch.getD "") = some edge) ∨
          (current.kind = .decision ∧
            edge ∈ markerEdges activities current following)) := by
  cases following with
  | nil => simp [edgesFrom, markerEdges]
  | cons next after =>
    cases marked : current.kind.isMarker with
    | true => simp [edgesFrom, marked]
    | false =>
      by_cases isDecision : current.kind = .decision
      · simp [edgesFrom, isDecision, ActivityKind.isMarker]
      · simp [edgesFrom, isDecision, marked]

/-- What follows a step in a list still follows it when the list is longer. -/
theorem Follows.cons {activities : List Activity} {source next : Activity} {label : String}
    (follows : Follows activities source next label) (first : Activity) :
    Follows (first :: activities) source next label := by
  cases follows with
  | directly before after split => exact .directly (first :: before) after (by simp [split])
  | branch before between after marker split isDecision isMarker own =>
    exact .branch (first :: before) between after marker (by simp [split]) isDecision isMarker own

/-- The edges along a list lead from its steps that are drawn to the steps that may
follow them. The induction peels off the first step, whose edges all lead to what
stands behind it. -/
theorem mem_edgesAlong {activities steps : List Activity} {edge : ActivityEdge} :
    edge ∈ edgesAlong activities steps ↔
      ∃ source next label, source.kind.isMarker = false ∧ Follows steps source next label ∧
        edge? activities source next label = some edge := by
  induction steps with
  | nil =>
    constructor
    · simp [edgesAlong]
    · rintro ⟨source, next, label, _, follows, _⟩
      cases follows with
      | directly before after split => simp at split
      | branch before between after marker split => simp at split
  | cons current following inductionHypothesis =>
    rw [edgesAlong, List.mem_append, mem_edgesFrom, inductionHypothesis]
    constructor
    · rintro (⟨drawn, ⟨next, after, rfl, found⟩ | ⟨isDecision, marked⟩⟩ |
        ⟨source, next, label, drawn, follows, found⟩)
      · exact ⟨current, next, _, drawn, .directly [] after rfl, found⟩
      · obtain ⟨between, marker, next, after, rfl, isMarker, own, found⟩ :=
          mem_markerEdges.mp marked
        exact ⟨current, next, _, drawn, .branch [] between after marker rfl isDecision isMarker own,
          found⟩
      · exact ⟨source, next, label, drawn, follows.cons current, found⟩
    · rintro ⟨source, next, label, drawn, follows, found⟩
      cases follows with
      | directly before after split =>
        cases before with
        | nil =>
          obtain ⟨rfl, rfl⟩ : current = source ∧ following = next :: after := by
            simpa using split
          exact .inl ⟨drawn, .inl ⟨next, after, rfl, found⟩⟩
        | cons head tail =>
          have later : following = tail ++ source :: next :: after := (List.cons.inj split).2
          exact .inr ⟨source, next, _, drawn, .directly tail after later, found⟩
      | branch before between after marker split isDecision isMarker own =>
        cases before with
        | nil =>
          obtain ⟨rfl, rfl⟩ : current = source ∧
              following = between ++ marker :: next :: after := by simpa using split
          exact .inl ⟨drawn, .inr ⟨isDecision, mem_markerEdges.mpr
            ⟨between, marker, next, after, rfl, isMarker, own, found⟩⟩⟩
        | cons head tail =>
          have later : following = tail ++ source :: (between ++ marker :: next :: after) :=
            (List.cons.inj split).2
          exact .inr ⟨source, next, _, drawn,
            .branch tail between after marker later isDecision isMarker own, found⟩

/-- The merge of a decision is one of the steps. -/
theorem mergeOf?_some {activities : List Activity} {decision merge : Int}
    (found : mergeOf? activities decision = some merge) :
    ∃ step ∈ activities, step.kind = .merge ∧ step.relatedDecision = some decision ∧
      step.id = merge := by
  obtain ⟨step, search, same⟩ := Option.map_eq_some_iff.mp found
  have property := List.find?_some search
  simp only [Bool.and_eq_true, beq_iff_eq] at property
  exact ⟨step, by simpa using List.mem_of_find?_eq_some search, property.1, property.2, same⟩

/-- Where an edge arrives is a step that is drawn and stands no earlier than the
step the edge was meant for. A merge stands behind the markers of its decision. -/
theorem Ordered.arrival {activities : List Activity} (ordered : Ordered activities)
    {next : Activity} (member : next ∈ activities) {target : Int}
    (arrives : arrival? activities next = some target) :
    ∃ step ∈ activities, step.kind.isMarker = false ∧ step.id = target ∧ next.id ≤ target := by
  cases marked : next.kind.isMarker with
  | false =>
    have same : next.id = target := by simpa [arrival?, marked] using arrives
    exact ⟨next, member, marked, same, by omega⟩
  | true =>
    simp only [arrival?, marked, if_true] at arrives
    obtain ⟨decision, refers, found⟩ := Option.bind_eq_some_iff.mp arrives
    obtain ⟨merge, mergeMember, isMerge, related, rfl⟩ := mergeOf?_some found
    refine ⟨merge, mergeMember, by simp [isMerge, ActivityKind.isMarker], rfl, ?_⟩
    obtain ⟨before, after, split⟩ := List.append_of_mem mergeMember
    have mergeNumber := ordered.ids before merge after split
    rw [split] at member
    rcases List.mem_append.mp member with earlier | later
    · obtain ⟨first, between, beforeSplit⟩ := List.append_of_mem earlier
      have number := ordered.ids first next (between ++ merge :: after)
        (by simp [split, beforeSplit])
      rw [number, mergeNumber, beforeSplit]
      simp only [List.length_append, List.length_cons]
      omega
    · rcases List.mem_cons.mp later with rfl | behind
      · exact Int.le_refl _
      · exact absurd (refers.trans related.symm)
          (ordered.merges before merge after split isMerge next behind marked)

/-- What follows a step is a later one of the same list. -/
theorem Ordered.follows_later {activities : List Activity} (ordered : Ordered activities)
    {source next : Activity} {label : String} (follows : Follows activities source next label) :
    source ∈ activities ∧ next ∈ activities ∧ source.id < next.id := by
  cases follows with
  | directly before after split =>
    have sourceNumber := ordered.ids before source (next :: after) split
    have nextNumber := ordered.ids (before ++ [source]) next after (by simp [split])
    refine ⟨by simp [split], by simp [split], ?_⟩
    rw [sourceNumber, nextNumber, List.length_append, List.length_singleton]
    omega
  | branch before between after marker split =>
    have sourceNumber := ordered.ids before source _ split
    have nextNumber := ordered.ids (before ++ source :: (between ++ [marker])) next after
      (by simp [split])
    refine ⟨by simp [split], by simp [split], ?_⟩
    rw [sourceNumber, nextNumber]
    simp only [List.length_append, List.length_cons]
    omega

/-- Every edge leads from a step that is drawn to a later step that is drawn. -/
theorem Ordered.edge_forward {activities : List Activity} (ordered : Ordered activities)
    {edge : ActivityEdge} (member : edge ∈ edges activities) :
    ∃ source ∈ activities, ∃ target ∈ activities, source.kind.isMarker = false ∧
      target.kind.isMarker = false ∧ source.id = edge.source ∧ target.id = edge.target ∧
      source.id < target.id := by
  obtain ⟨source, next, label, drawn, follows, found⟩ := mem_edgesAlong.mp member
  obtain ⟨arrived, arrives, rfl⟩ := Option.map_eq_some_iff.mp found
  obtain ⟨sourceMember, nextMember, later⟩ := ordered.follows_later follows
  obtain ⟨target, targetMember, targetDrawn, same, notEarlier⟩ :=
    ordered.arrival nextMember arrives
  exact ⟨source, sourceMember, target, targetMember, drawn, targetDrawn, rfl, same, by omega⟩

/-- An edge leads from one number to another. -/
def Leads (edges : List ActivityEdge) (source target : Int) : Prop :=
  ∃ edge ∈ edges, edge.source = source ∧ edge.target = target

/-- A step that is drawn is led to by the steps that it follows. -/
theorem leads_of_follows {activities : List Activity} {source next : Activity} {label : String}
    (follows : Follows activities source next label) (drawn : source.kind.isMarker = false)
    (nextDrawn : next.kind.isMarker = false) : Leads (edges activities) source.id next.id := by
  have found : edge? activities source next label = some ⟨source.id, next.id, label⟩ := by
    simp [edge?, arrival?, nextDrawn]
  exact ⟨_, mem_edgesAlong.mpr ⟨source, next, label, drawn, follows, found⟩, rfl, rfl⟩

/-- Every step that is drawn is reached from the first one. The step before it leads
to it; if that is a marker, the decision of the marker does. -/
theorem Ordered.reachable {activities : List Activity} (ordered : Ordered activities)
    {before after : List Activity} {step : Activity}
    (split : activities = before ++ step :: after) (drawn : step.kind.isMarker = false) :
    Relation.ReflTransGen (Leads (edges activities)) 0 step.id := by
  induction length : before.length using Nat.strongRecOn generalizing before after step with
  | ind count inductionHypothesis =>
    rcases List.eq_nil_or_concat before with rfl | ⟨earlier, previous, rfl⟩
    · have first : step.id = 0 := ordered.ids [] step after split
      rw [first]
    · have behind : activities = earlier ++ previous :: step :: after := by simpa using split
      have shorter : earlier.length < count := by
        rw [← length]
        simp
      cases marked : previous.kind.isMarker with
      | false =>
        have reached := inductionHypothesis earlier.length shorter behind marked rfl
        exact reached.tail (leads_of_follows (.directly earlier after behind) marked drawn)
      | true =>
        obtain ⟨decision, member, isDecision, own⟩ :=
          ordered.markers earlier previous _ behind marked
        obtain ⟨first, between, rfl⟩ := List.append_of_mem member
        have decisionDrawn : decision.kind.isMarker = false := by
          simp [isDecision, ActivityKind.isMarker]
        have branch : activities = first ++ decision :: (between ++ previous :: step :: after) := by
          simpa using behind
        have nearer : first.length < count := by
          simp only [List.length_append, List.length_cons] at shorter
          omega
        have reached := inductionHypothesis first.length nearer branch decisionDrawn rfl
        exact reached.tail (leads_of_follows
          (.branch first between after previous branch isDecision marked own) decisionDrawn drawn)

end Activity

end Drafting
