import Drafting.Proofs.Text.Keyword
import Drafting.Proofs.Text.Scan
import Drafting.Proofs.UseCaseDiagram.Rectangles

/-!
# Use cases named by their labels

A use case may be declared by its label in parentheses, and a relation may lead to it by the
same label. The declaration makes a name of the label by putting an underscore for each run of
blanks. The relation takes the label as it stands.

The main statement says when the two agree, so that the relation leads to the use case that
was declared: the label holds no blank. A further condition is that the line is a relation at
all, which it is not if its source is the keyword of a declaration.
-/

namespace Drafting.UseCaseDiagram

open Text

/-- A label that can stand in parentheses: it is not empty and holds no parenthesis. -/
structure Label where
  characters : List Char
  nonempty : characters ≠ []
  plain : ∀ character ∈ characters, character ≠ '(' ∧ character ≠ ')'

namespace Label

/-- A label as a string. -/
def text (label : Label) : String := String.ofList label.characters

/-- The name of the use case that is declared by a label. -/
def name (label : Label) : String := String.ofList (Statement.nameOf label.characters)

/-- The line that declares a use case by its label. -/
def declaration (label : Label) : String := "(" ++ label.text ++ ")"

/-- The line that relates a name to the use case of a label. -/
def relation (label : Label) (source : Word) : String :=
  source.text ++ " --> (" ++ label.text ++ ")"

/-- The characters of the line that declares a use case. -/
theorem toList_declaration (label : Label) :
    label.declaration.toList = '(' :: (label.characters ++ [')']) := by
  simp [declaration, text]

/-- The characters of the line that relates a name to a use case. -/
theorem toList_relation (label : Label) (source : Word) :
    (label.relation source).toList =
      source.characters ++ ' ' :: ("--> (".toList ++ (label.characters ++ [')'])) := by
  simp [relation, text, Word.toList_text]

/-- A label is read up to the parenthesis behind it. -/
theorem run?_characters (label : Label) :
    run? (· != ')') (label.characters ++ [')']) = some (label.characters, [')']) := by
  refine run?_of_forced label.nonempty ?_ (by simp)
  intro character member
  simpa using (label.plain character member).2

/-- No parenthesis is left out of a label. -/
theorem filter_characters (label : Label) :
    (label.characters.filter fun character => character != '(') = label.characters := by
  refine List.filter_eq_self.mpr ?_
  intro character member
  simpa using (label.plain character member).1

end Label

namespace Statement

/-- No blank is left in the name that is made of a label. -/
theorem isBlank_of_mem_joinWords {afterBlank : Bool} {label : List Char} {character : Char}
    (member : character ∈ joinWords afterBlank label) : isBlank character = false := by
  induction label generalizing afterBlank with
  | nil => contradiction
  | cons first others inductionHypothesis =>
    rw [joinWords] at member
    by_cases blank : isBlank first = true
    · rw [if_pos blank] at member
      split at member
      · exact inductionHypothesis member
      · rcases List.mem_cons.mp member with rfl | later
        · rfl
        · exact inductionHypothesis later
    · rw [if_neg blank] at member
      rcases List.mem_cons.mp member with rfl | later
      · exact Bool.eq_false_iff.mpr blank
      · exact inductionHypothesis later

/-- A label is its own name exactly if it holds no blank. -/
theorem nameOf_eq_self_iff (label : List Char) :
    nameOf label = label ↔ ∀ character ∈ label, isBlank character = false := by
  constructor
  · intro same character member
    rw [← same] at member
    exact isBlank_of_mem_joinWords member
  · intro visible
    rw [nameOf]
    generalize false = afterBlank
    induction label generalizing afterBlank with
    | nil => rfl
    | cons first others inductionHypothesis =>
      have here := visible first (by simp)
      rw [joinWords, if_neg (by simp [here]),
        inductionHypothesis (fun other member => visible other (by simp [member]))]

/-- A label in parentheses declares a use case under the name made of it. -/
theorem ofLine?_declaration (label : Label) :
    ofLine? label.declaration = some (.useCase label.name label.text) := by
  have noActor (rest : List Char) : expectAnyCase "actor" ('(' :: rest) = none := rfl
  have noUseCase (rest : List Char) : expectAnyCase "usecase" ('(' :: rest) = none := rfl
  have short : shortUseCase? ('(' :: (label.characters ++ [')'])) =
      some (.useCase label.name label.text) := by
    have opened (rest : List Char) : expect "(" ('(' :: rest) = some rest := rfl
    have closed : expect ")" [')'] = some [] := rfl
    have noName : expect "as" (dropBlanks []) = none := rfl
    simp [shortUseCase?, opened, label.run?_characters, closed, noName, Label.name, Label.text]
  rw [ofLine?, label.toList_declaration]
  simp [forms, quotedActor?, plainActor?, quotedUseCase?, plainUseCase?, quoted?, noActor,
    noUseCase, short]

/-- What stands behind the source and a blank in the line of a relation. -/
def behindSource (label : Label) : List Char := "--> (".toList ++ (label.characters ++ [')'])

/-- Behind a word and a blank, the line of a relation begins with neither a quoted label nor a
name, so no declaration goes on there. -/
theorem quoted?_relation (label : Label) (source : Word) {keyword : String}
    (unbroken : ' ' ∉ keyword.toList) :
    quoted? keyword (source.characters ++ ' ' :: behindSource label) = none := by
  rw [quoted?]
  cases read : expectAnyCase keyword (source.characters ++ ' ' :: behindSource label) with
  | none => rfl
  | some found =>
    obtain ⟨written, rest⟩ := found
    rcases source.behind_keyword unbroken read with ⟨_, rfl⟩ | ⟨first, others, rfl, visible⟩
    · rfl
    · simp [skipBlanks?, visible]

/-- Such a line declares no actor. -/
theorem plainActor?_relation (label : Label) (source : Word) :
    plainActor? (source.characters ++ ' ' :: behindSource label) = none := by
  rw [plainActor?]
  cases read : expectAnyCase "actor" (source.characters ++ ' ' :: behindSource label) with
  | none => rfl
  | some found =>
    obtain ⟨written, rest⟩ := found
    rcases source.behind_keyword (by decide) read with ⟨_, rfl⟩ | ⟨first, others, rfl, visible⟩
    · rfl
    · simp [skipBlanks?, visible]

/-- It declares a use case exactly if its source is the keyword for that. -/
theorem plainUseCase?_relation (label : Label) (source : Word) :
    (¬ IsKeyword "usecase" source.characters →
      plainUseCase? (source.characters ++ ' ' :: behindSource label) = none) ∧
    (IsKeyword "usecase" source.characters →
      ∃ name text, plainUseCase? (source.characters ++ ' ' :: behindSource label) =
        some (.useCase name text)) := by
  constructor
  · intro other
    rw [plainUseCase?]
    cases read : expectAnyCase "usecase" (source.characters ++ ' ' :: behindSource label) with
    | none => rfl
    | some found =>
      obtain ⟨written, rest⟩ := found
      rcases source.behind_keyword (by decide) read with
        ⟨isKeyword, _⟩ | ⟨first, others, rfl, visible⟩
      · exact absurd isKeyword other
      · simp [someBlanks, longest1, visible]
  · intro isKeyword
    have read := readLetters_of_letterwise isKeyword (' ' :: behindSource label)
    rw [plainUseCase?, expectAnyCase, read]
    exact ⟨_, _, rfl⟩

/-- A label in parentheses is read as the target of a relation. -/
theorem target?_label (label : Label) :
    target? ('(' :: (label.characters ++ [')'])) = some (label.characters, []) := by
  have opened (rest : List Char) : target? ('(' :: rest) =
      (run? (· != ')') rest).bind fun found =>
        (expect ")" found.2).bind fun rest =>
          some (found.1.filter fun character => character != '(', rest) := rfl
  have closed : expect ")" [')'] = some [] := rfl
  rw [opened, label.run?_characters, Option.bind_some, closed, Option.bind_some,
    label.filter_characters]

/-- A relation is read up to its target, and from there to its label. -/
theorem relation?_eq (source : Word) (rest : List Char) :
    relation? (source.characters ++ ' ' :: ("--> (".toList ++ rest)) =
      (target? ('(' :: rest)).bind fun target =>
        (optionalLabel? target.2).bind fun label =>
          some (.relation source.text (String.ofList target.1) true (String.ofList label)) := by
  have word : word? (source.characters ++ ' ' :: ("--> (".toList ++ rest)) =
      some (source.characters, ' ' :: ("--> (".toList ++ rest)) :=
    run?_of_forced source.nonempty source.letters (refused_of_head? rfl (by decide))
  rw [relation?, word]
  rfl

/-- The line of a relation leads from its source to the label as it stands. -/
theorem relation?_relation (label : Label) (source : Word) :
    relation? (source.characters ++ ' ' :: behindSource label) =
      some (.relation source.text label.text true "") := by
  rw [behindSource, relation?_eq, target?_label]
  rfl

/-- The line of a relation opens no rectangle. -/
theorem openRectangle?_relation (label : Label) (source : Word) :
    openRectangle? (source.characters ++ ' ' :: behindSource label) = none := by
  rw [openRectangle?]
  cases found : expect "rectangle" (source.characters ++ ' ' :: behindSource label) with
  | none => rfl
  | some rest =>
    have split := List.isPrefixOf?_eq_some_iff_append_eq.mp found
    rcases source.behind_prefix (by decide) split.symm with
      ⟨_, rfl⟩ | ⟨first, others, rfl, visible⟩
    · rfl
    · simp [skipBlanks?, visible]

/-- A line that relates a name to a label is a relation to the label as it stands, unless the
name is the keyword of a declaration. Then it declares a use case. -/
theorem ofLine?_relation (label : Label) (source : Word) :
    (¬ IsKeyword "usecase" source.characters →
      ofLine? (label.relation source) = some (.relation source.text label.text true "")) ∧
    (IsKeyword "usecase" source.characters →
      ∃ name text, ofLine? (label.relation source) = some (.useCase name text)) := by
  have characters : (label.relation source).toList =
      source.characters ++ ' ' :: behindSource label := label.toList_relation source
  have noActor : quotedActor? (source.characters ++ ' ' :: behindSource label) = none := by
    rw [quotedActor?, quoted?_relation label source (by decide)]
    rfl
  have noQuoted : quotedUseCase? (source.characters ++ ' ' :: behindSource label) = none := by
    rw [quotedUseCase?, quoted?_relation label source (by decide)]
    rfl
  have noShort : shortUseCase? (source.characters ++ ' ' :: behindSource label) = none := by
    rw [shortUseCase?, expect_eq_none rfl (source.ne_of_head? (by decide) _)]
    rfl
  obtain ⟨noPlain, plain⟩ := plainUseCase?_relation label source
  rw [ofLine?, characters, forms, List.findSome?_cons, noActor, List.findSome?_cons,
    plainActor?_relation, List.findSome?_cons, noQuoted, List.findSome?_cons]
  constructor
  · intro other
    rw [noPlain other, List.findSome?_cons, noShort, List.findSome?_cons, relation?_relation]
  · intro isKeyword
    obtain ⟨name, text, declares⟩ := plain isKeyword
    exact ⟨name, text, by rw [declares]⟩

end Statement

namespace Progress

/-- The line that declares a use case carries out the declaration. -/
theorem readLine_declaration (progress : Progress) (label : Label) :
    progress.readLine label.declaration =
      progress.addUseCase label.name label.text progress.openRectangles.head? := by
  have noRectangle : Statement.openRectangle? label.declaration.toList = none := by
    rw [label.toList_declaration]
    rfl
  have brace : "\x7d".toList.head? = some '\x7d' := rfl
  have noBrace : (label.declaration == "\x7d") = false :=
    beq_eq_false_of_head? brace (by simp [label.toList_declaration])
  rw [readLine, noRectangle, noBrace, Statement.ofLine?_declaration]
  rfl

/-- The line of a relation is carried out as the statement it is read as. -/
theorem readLine_relation (progress : Progress) (label : Label) (source : Word)
    {statement : Statement}
    (read : Statement.ofLine? (label.relation source) = some statement) :
    progress.readLine (label.relation source) = progress.apply statement := by
  have noRectangle : Statement.openRectangle? (label.relation source).toList = none := by
    rw [label.toList_relation]
    exact Statement.openRectangle?_relation label source
  have brace : "\x7d".toList.head? = some '\x7d' := rfl
  have noBrace : (label.relation source == "\x7d") = false := by
    apply beq_eq_false_of_head? brace
    rw [label.toList_relation]
    exact source.ne_of_head? (by decide) _
  rw [readLine, noRectangle, noBrace, read]
  rfl

/-- A use case that is added leaves relations alone. -/
theorem relations_addUseCase (progress : Progress) (name label : String) (place : Option Nat) :
    (progress.addUseCase name label place).diagram.relations = progress.diagram.relations := by
  rw [addUseCase]
  split <;> rfl

/-- A relation is added behind those that were there, since its ends add none. -/
theorem relations_addRelation (progress : Progress) (source target : String) (hasHead : Bool)
    (label : String) :
    (progress.addRelation source target hasHead label).diagram.relations =
      progress.diagram.relations ++
        [⟨source, target, if hasHead then .association else .link, label⟩] := by
  have atSource : (progress.withSource source).diagram.relations =
      progress.diagram.relations := by
    rw [withSource, addActor]
    split
    · split <;> rfl
    · rfl
  have atTarget (named : Progress) :
      (named.withTarget target).diagram.relations = named.diagram.relations := by
    rw [withTarget]
    split
    · exact relations_addUseCase ..
    · rfl
  rw [addRelation_eq]
  dsimp only
  rw [atTarget, atSource]

/-- A relation to a use case that is known adds none, since its source is no use case. -/
theorem useCases_addRelation (progress : Progress) (source : String) {target : String}
    (known : target ∈ progress.diagram.useCaseNames) (hasHead : Bool) (label : String) :
    (progress.addRelation source target hasHead label).diagram.useCases =
      progress.diagram.useCases := by
  have atSource : (progress.withSource source).diagram.useCases = progress.diagram.useCases := by
    rw [withSource, addActor]
    split
    · split <;> rfl
    · rfl
  have stillKnown : (progress.withSource source).hasUseCase target = true := by
    rw [hasUseCase, atSource]
    exact any_key_iff.mpr known
  rw [addRelation_eq, withTarget, stillKnown]
  exact atSource

/-- The target of a relation is known once it was added. -/
theorem mem_names_addRelation (progress : Progress) (source target : String) (hasHead : Bool)
    (label : String) :
    target ∈ (progress.addRelation source target hasHead label).diagram.names :=
  mem_names_withTarget (progress.withSource source) target

/-- A relation to a label leads to the label as it stands, unless its source is the keyword
for use cases. Then no relation is added. -/
theorem relations_readLine_relation (progress : Progress) (label : Label) (source : Word) :
    (¬ IsKeyword "usecase" source.characters →
      (progress.readLine (label.relation source)).diagram.relations =
        progress.diagram.relations ++ [⟨source.text, label.text, .association, ""⟩]) ∧
    (IsKeyword "usecase" source.characters →
      (progress.readLine (label.relation source)).diagram.relations =
        progress.diagram.relations) := by
  obtain ⟨asRelation, asDeclaration⟩ := Statement.ofLine?_relation label source
  constructor
  · intro other
    rw [progress.readLine_relation label source (asRelation other)]
    exact relations_addRelation ..
  · intro isKeyword
    obtain ⟨name, text, declares⟩ := asDeclaration isKeyword
    rw [progress.readLine_relation label source declares]
    exact relations_addUseCase ..

/-- Where the name made of a label is known, a relation to the label leads to it without
adding a use case exactly if the label holds no blank. -/
theorem reaches_name_iff {progress : Progress} {label : Label}
    (known : label.name ∈ progress.diagram.useCaseNames) (source : Word) :
    let related := progress.readLine (label.relation source)
    related.diagram.useCases = progress.diagram.useCases ∧
        related.diagram.relations =
          progress.diagram.relations ++ [⟨source.text, label.name, .association, ""⟩] ↔
      ¬ IsKeyword "usecase" source.characters ∧
        ∀ character ∈ label.characters, isBlank character = false := by
  intro related
  obtain ⟨added, notAdded⟩ := progress.relations_readLine_relation label source
  constructor
  · rintro ⟨_, reached⟩
    have other : ¬ IsKeyword "usecase" source.characters := by
      intro isKeyword
      have lengths := congrArg List.length ((notAdded isKeyword).symm.trans reached)
      simp at lengths
    have targets := (added other).symm.trans reached
    have sameName : label.text = label.name := by simpa using targets
    exact ⟨other, (Statement.nameOf_eq_self_iff _).mp (String.ofList_injective sameName.symm)⟩
  · rintro ⟨other, visible⟩
    have sameName : label.name = label.text :=
      congrArg String.ofList ((Statement.nameOf_eq_self_iff _).mpr visible)
    rw [sameName] at known ⊢
    refine ⟨?_, added other⟩
    have asRelation := (Statement.ofLine?_relation label source).1 other
    rw [show related = _ from progress.readLine_relation label source asRelation]
    exact progress.useCases_addRelation source.text known true ""

end Progress

/-- A label that is declared in parentheses stands for a use case from then on, under the name
made of it. A relation to the same label adds no use case and leads to that name exactly if
its source is not the keyword for use cases and the label holds no blank. With a blank it leads
to the label as it stands, which is known afterwards as a name of its own. -/
theorem declared_label_reached_iff (progress : Progress) (source : Word) (label : Label) :
    let declared := progress.readLine label.declaration
    let related := declared.readLine (label.relation source)
    let leadsTo (target : String) : Prop := related.diagram.relations =
      declared.diagram.relations ++ [⟨source.text, target, .association, ""⟩]
    label.name ∈ declared.diagram.useCaseNames ∧
      (related.diagram.useCases = declared.diagram.useCases ∧ leadsTo label.name ↔
        ¬ IsKeyword "usecase" source.characters ∧
          ∀ character ∈ label.characters, isBlank character = false) ∧
      (¬ IsKeyword "usecase" source.characters →
        leadsTo label.text ∧ label.text ∈ related.diagram.names) := by
  intro declared related leadsTo
  have known : label.name ∈ declared.diagram.useCaseNames := by
    rw [show declared = _ from progress.readLine_declaration label]
    exact Progress.mem_useCaseNames_addUseCase ..
  refine ⟨known, Progress.reaches_name_iff known source, ?_⟩
  intro other
  refine ⟨(declared.relations_readLine_relation label source).1 other, ?_⟩
  have asRelation := (Statement.ofLine?_relation label source).1 other
  rw [show related = _ from declared.readLine_relation label source asRelation]
  exact Progress.mem_names_addRelation ..

/-- The label of a declared use case holds a blank, so the relation leads to a second one. -/
theorem label_with_blank_missed :
    let declared := ({} : Progress).readLine "(Check out)"
    let related := declared.readLine "Customer --> (Check out)"
    declared.diagram.useCaseNames = ["Check_out"] ∧
      related.diagram.useCaseNames = ["Check_out", "Check out"] ∧
      related.diagram.relations.map Relation.target = ["Check out"] := by
  decide

end Drafting.UseCaseDiagram
