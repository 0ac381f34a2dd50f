import Drafting.Proofs.Diagram.Endpoints
import Mathlib.Data.List.Induction

/-!
# Names of entities

An entity is added where a line declares it, and where a relationship names one that is not
known yet. A relationship looks the name up first; a declaration does not, so a name that was
mentioned before is then that of a further entity.

Which names a list of lines mentions, and which of them by declaration, is read off the lines
alone. The main statement is that entities have distinct names exactly if no declaration
repeats a name, and that an end of a relationship stands for one entity only exactly if its
name is not declared again.
-/

namespace Drafting.EntityDiagram

/-- A name in a line: that of the entity which the line declares, or of an end of a
relationship. -/
structure Mention where
  name : String
  declares : Bool
  deriving DecidableEq, Repr

namespace Mention

/-- The names that a line mentions as a relationship. -/
def ofRelationship (line : String) : List Mention :=
  match relationship? line.toList with
  | some relationship => [⟨relationship.source, false⟩, ⟨relationship.target, false⟩]
  | none => []

/-- The names that a line mentions. In the body of an entity attributes mention none. -/
def ofLine (inBody : Bool) (line : String) : List Mention :=
  match head? line.toList with
  | some (name, _) => [⟨String.ofList name, true⟩]
  | none =>
    if line == "\x7d" || inBody && Progress.isAttributeLine line then []
    else ofRelationship line

/-- Whether the body of an entity is open behind a line. -/
def bodyBehind (inBody : Bool) (line : String) : Bool :=
  if (head? line.toList).isSome then true else if line == "\x7d" then false else inBody

/-- The names that lines mention, in order. -/
def ofLines : Bool → List String → List Mention
  | _, [] => []
  | inBody, line :: others => ofLine inBody line ++ ofLines (bodyBehind inBody line) others

/-- The names of entities after a further mention. -/
def enter (names : List String) (mention : Mention) : List String :=
  if mention.declares = false ∧ mention.name ∈ names then names else names ++ [mention.name]

/-- The names of the entities that mentions lead to. -/
def entityNames (mentions : List Mention) : List String := mentions.foldl enter []

/-- A name is declared again if it was mentioned before one of its declarations. -/
def Repeated (mentions : List Mention) (name : String) : Prop :=
  ∃ before after, mentions = before ++ ⟨name, true⟩ :: after ∧ name ∈ before.map Mention.name

/-- One more mention enters its name into the names so far. -/
theorem entityNames_concat (mentions : List Mention) (last : Mention) :
    entityNames (mentions ++ [last]) = enter (entityNames mentions) last := by
  rw [entityNames, List.foldl_append]
  rfl

/-- Entities have the names that are mentioned, and no others. -/
theorem mem_entityNames (mentions : List Mention) (name : String) :
    name ∈ entityNames mentions ↔ name ∈ mentions.map Mention.name := by
  induction mentions using List.reverseRecOn with
  | nil => rfl
  | append_singleton mentions last inductionHypothesis =>
    rw [entityNames_concat, enter, List.map_append, List.mem_append, ← inductionHypothesis,
      List.map_singleton, List.mem_singleton]
    split
    · next known =>
      constructor
      · exact .inl
      · rintro (earlier | rfl)
        · exact earlier
        · exact known.2
    · rw [List.mem_append, List.mem_singleton]

/-- A name is declared again among mentions and one more if it was before, or if the last one
declares it and it was mentioned. -/
theorem repeated_concat (mentions : List Mention) (last : Mention) (name : String) :
    Repeated (mentions ++ [last]) name ↔
      Repeated mentions name ∨ last = ⟨name, true⟩ ∧ name ∈ mentions.map Mention.name := by
  constructor
  · rintro ⟨before, after, split, mentioned⟩
    rcases split_of_concat split with ⟨rfl, rfl, _⟩ | ⟨rest, _, earlier⟩
    · exact .inr ⟨rfl, mentioned⟩
    · exact .inl ⟨before, rest, earlier, mentioned⟩
  · rintro (⟨before, after, rfl, mentioned⟩ | ⟨rfl, mentioned⟩)
    · exact ⟨before, after ++ [last], by simp, mentioned⟩
    · exact ⟨mentions, [], rfl, mentioned⟩

/-- At most one entity has a name exactly if the name is not declared again. -/
theorem count_entityNames_le_one_iff (mentions : List Mention) (name : String) :
    (entityNames mentions).count name ≤ 1 ↔ ¬ Repeated mentions name := by
  induction mentions using List.reverseRecOn with
  | nil =>
    constructor
    · rintro _ ⟨before, after, split, _⟩
      simp at split
    · intro _
      simp [entityNames]
  | append_singleton mentions last inductionHypothesis =>
    have mentioned : name ∈ mentions.map Mention.name ↔
        0 < (entityNames mentions).count name := by
      rw [List.count_pos_iff, mem_entityNames]
    obtain ⟨other, declares⟩ := last
    rw [entityNames_concat, enter, repeated_concat, not_or, ← inductionHypothesis, mentioned]
    simp only [Mention.mk.injEq]
    split
    · next known =>
      constructor
      · intro once
        exact ⟨once, by simp [known.1]⟩
      · exact And.left
    · next entered =>
      rw [List.count_append, List.count_singleton]
      by_cases own : other = name
      · subst own
        cases declares with
        | true =>
          simp only [beq_self_eq_true, if_true, and_self, true_and]
          omega
        | false =>
          have new : (entityNames mentions).count other = 0 :=
            List.count_eq_zero.mpr fun known => entered ⟨rfl, known⟩
          simp [new]
      · simp [own]

end Mention

namespace Progress

/-- An entity that is declared has its name behind the others. -/
theorem names_addEntity (progress : Progress) (name label : String) :
    (progress.addEntity name label).diagram.names = progress.diagram.names ++ [name] := by
  simp [addEntity, names]

/-- An entity that a relationship names is entered only if it is new. -/
theorem names_ensure (progress : Progress) (name : String) :
    (progress.ensure name).diagram.names =
      Mention.enter progress.diagram.names ⟨name, false⟩ := by
  have isKnown : (progress.diagram.entities.any fun entity => entity.name == name) = true ↔
      name ∈ progress.diagram.names := any_key_iff
  by_cases known : name ∈ progress.diagram.names
  · rw [ensure, if_pos (isKnown.mpr known), Mention.enter, if_pos ⟨rfl, known⟩]
  · rw [ensure, if_neg (fun found => known (isKnown.mp found)), names_addEntity, Mention.enter,
      if_neg (fun both => known both.2)]

/-- A relationship enters the names of its two ends, and leaves open what is open. -/
theorem readRelationship_mentions (progress : Progress) (line : String) :
    (progress.readRelationship line).diagram.names =
        (Mention.ofRelationship line).foldl Mention.enter progress.diagram.names ∧
      (progress.readRelationship line).current = progress.current := by
  have kept (progress : Progress) (name : String) :
      (progress.ensure name).current = progress.current := by
    rw [ensure]
    split <;> rfl
  rw [readRelationship, Mention.ofRelationship]
  cases relationship? line.toList with
  | some relationship =>
    constructor
    · have atSource := names_ensure progress relationship.source
      have atTarget := names_ensure (progress.ensure relationship.source) relationship.target
      rw [atSource] at atTarget
      exact atTarget
    · exact (kept _ _).trans (kept _ _)
  | none => exact ⟨rfl, rfl⟩

/-- An attribute leaves the names of entities alone. -/
theorem names_addAttribute (progress : Progress) (position : Nat) (column : EntityAttribute) :
    (progress.addAttribute position column).diagram.names = progress.diagram.names := by
  let extend (entity : Entity) : Entity :=
    { entity with attributes := entity.attributes ++ [column] }
  have blind : ∀ entity, (extend entity).name = entity.name := fun _ => rfl
  exact map_modify_of_blind blind _ _

/-- A line enters the names that it mentions, and opens and closes bodies. -/
theorem readLine_mentions (progress : Progress) (line : String) :
    (progress.readLine line).diagram.names =
        (Mention.ofLine progress.current.isSome line).foldl Mention.enter
          progress.diagram.names ∧
      (progress.readLine line).current.isSome =
        Mention.bodyBehind progress.current.isSome line := by
  obtain ⟨related, sameBody⟩ := progress.readRelationship_mentions line
  rw [readLine, Mention.ofLine, Mention.bodyBehind]
  cases head? line.toList with
  | some found => exact ⟨names_addEntity progress _ _, rfl⟩
  | none =>
    cases line == "\x7d" with
    | true => exact ⟨rfl, rfl⟩
    | false =>
      cases current : progress.current with
      | none =>
        rw [current] at sameBody
        exact ⟨related, congrArg Option.isSome sameBody⟩
      | some position =>
        rw [current] at sameBody
        cases isAttributeLine line with
        | true =>
          cases attribute? line with
          | some column => exact ⟨names_addAttribute .., by simp [addAttribute, current]⟩
          | none => exact ⟨rfl, by simp [current]⟩
        | false => exact ⟨related, congrArg Option.isSome sameBody⟩

/-- Lines enter the names that they mention. -/
theorem foldl_mentions (progress : Progress) (lines : List String) :
    (lines.foldl readLine progress).diagram.names =
      (Mention.ofLines progress.current.isSome lines).foldl Mention.enter
        progress.diagram.names := by
  induction lines generalizing progress with
  | nil => rfl
  | cons line others inductionHypothesis =>
    obtain ⟨entered, body⟩ := progress.readLine_mentions line
    rw [List.foldl_cons, inductionHypothesis, entered, body, Mention.ofLines, List.foldl_append]

end Progress

/-- Whatever lines are read, entities have distinct names exactly if no declaration repeats a
name that an earlier line declares or relates. A relationship adds an entity only where its
name is new: each of its ends stands for one entity exactly if the name is not declared
again. -/
theorem entity_names_distinct_iff (lines : List String) :
    let diagram := ofLines lines
    let mentions := Mention.ofLines false
      (lines.filter fun line => !beginsWithAny directivesWithHide line.toList)
    (diagram.names.Nodup ↔ ∀ name, ¬ Mention.Repeated mentions name) ∧
      ∀ relationship ∈ diagram.relationships,
        ∀ name ∈ [relationship.source, relationship.target],
          diagram.names.count name = 1 ↔ ¬ Mention.Repeated mentions name := by
  intro diagram mentions
  have names : diagram.names = Mention.entityNames mentions := Progress.foldl_mentions {} _
  have once (name : String) :
      diagram.names.count name ≤ 1 ↔ ¬ Mention.Repeated mentions name := by
    rw [names]
    exact Mention.count_entityNames_le_one_iff mentions name
  constructor
  · rw [List.nodup_iff_count_le_one]
    exact forall_congr' once
  · intro relationship member name isEnd
    have known : name ∈ diagram.names := by
      obtain ⟨atSource, atTarget⟩ := (sound_ofLines lines).known relationship member
      rcases List.mem_pair.mp isEnd with rfl | rfl
      · exact atSource
      · exact atTarget
    have positive : 0 < diagram.names.count name := List.count_pos_iff.mpr known
    rw [← once]
    omega

/-- An entity that is declared behind a relationship to it is there twice. -/
theorem entity_declared_behind_relationship :
    (ofLines ["A ||--o\x7b B", "entity A \x7b", "\x7d"]).names = ["A", "B", "A"] := by
  decide

end Drafting.EntityDiagram
