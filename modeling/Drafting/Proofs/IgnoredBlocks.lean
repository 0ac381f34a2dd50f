import Drafting.Proofs.SequenceDiagram.Ends
import Drafting.Proofs.UseCaseDiagram.Places

/-!
# Ignored blocks

The openings of blocks that a reader does not know say nothing to it, but their ends look like
those of known blocks and close them.

The main statement says when a known block is closed by its own end: exactly if no ignored
block stands within it. Otherwise an alternative ends at an end within it, and a use case that
is declared behind an ignored block in a rectangle does not belong to that rectangle.
-/

namespace Drafting

open Text

/-- Ignored openings are plain lines. In a sequence, an alternative ends at the first end behind
its opening that finds the alternatives around it open as they were there, which is its own end
exactly if no ignored block stands within it. In a use case diagram, a use case that is declared
for the first time in a rectangle belongs to that rectangle exactly if no ignored block was closed
since its opening. What stands before and behind these blocks does not matter. -/
theorem closed_by_own_end_iff (earlier later : List String) :
    (∀ keyword ∈ ["opt ", "loop ", "par "], ∀ text, SequenceDiagram.isPlain (keyword ++ text)) ∧
    (∀ text, UseCaseDiagram.isPlain ("package " ++ text)) ∧
    (∀ (condition : String) (body : Blocks) (progress final : SequenceDiagram.Progress),
      SequenceDiagram.Progress.readLines {} earlier = .ok progress →
      progress.note.active = false → SequenceDiagram.stackReader.accepts body →
      progress.readLines
        (("alt " ++ condition) :: (body.lines "end" ++ "end" :: later)) = .ok final →
      ∃ before behind, body.lines "end" ++ ["end"] = before ++ "end" :: behind ∧
        (behind = [] ↔ body.ignoredCount = 0) ∧ progress.EndsBehind final condition before) ∧
    ∀ (opening declaration rectangleLabel name label : String) (place : Blocks.Place),
      let progress := earlier.foldl UseCaseDiagram.Progress.readLine {}
      let number := progress.diagram.rectangles.length
      let inner := (opening :: place.lines "\x7d").foldl UseCaseDiagram.Progress.readLine progress
      let final := (declaration :: later).foldl UseCaseDiagram.Progress.readLine inner
      UseCaseDiagram.Statement.openRectangle? opening.toList =
          some (.openRectangle rectangleLabel) →
      place.isProper UseCaseDiagram.isPlain UseCaseDiagram.stackReader.isOpening →
      UseCaseDiagram.isPlain declaration →
      UseCaseDiagram.Statement.ofLine? declaration = some (.useCase name label) →
      inner.hasUseCase name = false →
      ∃ useCase position, useCase.name = name ∧ useCase.label = label ∧
        UseCaseDiagram.Belongs useCase position final.diagram ∧
        final.diagram.labels[number]? = some rectangleLabel ∧
        (position = some number ↔ place.ignoredCount = 0) := by
  refine ⟨?_, ?_, ?_, ?_⟩
  · exact fun _ member text => SequenceDiagram.isPlain_ignored member text
  · exact UseCaseDiagram.isPlain_package
  · intro condition body progress final reached outside accepted read
    obtain ⟨before, behind, lines, own, pops⟩ := StackReader.exists_own_closing accepted
    have parts : body.lines "end" ++ "end" :: later = before ++ "end" :: (behind ++ later) := by
      have lines : body.lines "end" ++ ["end"] = before ++ "end" :: behind := lines
      have whole := congrArg (· ++ later) lines
      simpa using whole
    have opens := SequenceDiagram.Progress.readLine_alternative outside condition
    rw [SequenceDiagram.Progress.readLines, opens, parts] at read
    obtain ⟨closing, toClosing, fromClosing⟩ := SequenceDiagram.Progress.readLines_append read
    obtain ⟨closes, stack⟩ := pops (progress.openAlternative (trimmed condition)) outside
    rw [SequenceDiagram.Progress.run_of_readLines toClosing] at closes stack
    exact ⟨before, behind, lines, own, SequenceDiagram.Progress.endsBehind_of_closing reached
      opens toClosing closes stack fromClosing⟩
  · intro opening declaration rectangleLabel name label place progress number inner final opens
      accepted plain declares new
    let opened := progress.openRectangle rectangleLabel
    have sound : progress.Sound := UseCaseDiagram.Progress.sound_afterLines earlier
    have fromOpened : inner = (place.lines "\x7d").foldl UseCaseDiagram.Progress.readLine opened :=
      congrArg (fun next => (place.lines "\x7d").foldl UseCaseDiagram.Progress.readLine next)
        (progress.readLine_opening opens)
    have innerSound : inner.Sound := by
      rw [fromOpened]
      exact List.foldlRecOn (motive := UseCaseDiagram.Progress.Sound) _ _
        (sound.openRectangle rectangleLabel) fun _ sound line _ => sound.readLine line
    obtain ⟨useCase, sameName, sameLabel, belongs⟩ :=
      UseCaseDiagram.Belongs.of_declaration innerSound plain declares new later
    refine ⟨useCase, _, sameName, sameLabel, belongs, ?_, ?_⟩
    · have labelled : opened.diagram.labels[number]? = some rectangleLabel := by
        simp [opened, number, UseCaseDiagram.labels, UseCaseDiagram.Progress.openRectangle]
      have whole : final = (place.lines "\x7d" ++ declaration :: later).foldl
          UseCaseDiagram.Progress.readLine opened := by
        rw [List.foldl_append, ← fromOpened]
      rw [whole]
      exact UseCaseDiagram.Progress.label_afterLines labelled _
    · rw [fromOpened]
      exact UseCaseDiagram.Progress.innermost_iff sound rectangleLabel accepted

/-- Behind an actor, an alternative with an option in it is closed by an end within it, and a use
case behind a package does not belong to the rectangle around both. -/
theorem not_closed_by_own_end :
    let earlier := ["actor Ann"]
    let body : Blocks := .ignored "opt maybe" (.line "B -> A : two" .done) .done
    let place : Blocks.Place :=
      ⟨[], .ignored "package Sales \x7b" (.line "usecase Pay" .done) .done⟩
    let progress := (SequenceDiagram.Progress.readLines {} earlier).toOption.getD {}
    let final := (progress.readLines ("alt ok" :: (body.lines "end" ++ ["end"]))).toOption.getD {}
    let rectangles := (earlier ++ "rectangle \x22Shop\x22 \x7b" :: (place.lines "\x7d" ++
      ["usecase Ship"])).foldl UseCaseDiagram.Progress.readLine {}
    (∃ before behind, body.lines "end" ++ ["end"] = before ++ "end" :: behind ∧ behind ≠ [] ∧
      progress.EndsBehind final "ok" before) ∧
      ∃ useCase position, useCase.name = "Ship" ∧
        UseCaseDiagram.Belongs useCase position rectangles.diagram ∧ position ≠ some 0 := by
  intro earlier body place progress final rectangles
  obtain ⟨_, _, alternatives, useCases⟩ := closed_by_own_end_iff earlier []
  constructor
  · obtain ⟨before, behind, lines, own, ends⟩ := alternatives "ok" body progress final
      (by decide +kernel) (by decide +kernel) (by decide +kernel) (by decide +kernel)
    have ignored : body.ignoredCount ≠ 0 := by decide
    exact ⟨before, behind, lines, fun last => ignored (own.mp last), ends⟩
  · obtain ⟨useCase, position, sameName, _, belongs, _, inside⟩ :=
      useCases "rectangle \x22Shop\x22 \x7b" "usecase Ship" "Shop" "Ship" "Ship" place
        (by decide +kernel) (by decide +kernel) (by decide +kernel) (by decide +kernel)
        (by decide +kernel)
    have ignored : place.ignoredCount ≠ 0 := by decide
    exact ⟨useCase, position, sameName, belongs, fun shop => ignored (inside.mp shop)⟩

/-- An alternative with an option in it ends at the end of the option, and a use case behind a
package stands outside of the rectangle that holds both. -/
theorem closed_by_ignored_block :
    let body : Blocks := .line "A -> B : one" (.ignored "opt maybe"
      (.line "B -> A : two" .done) (.line "A -> B : three" .done))
    let place : Blocks.Place :=
      ⟨[], .ignored "package Sales \x7b" (.line "usecase Pay" .done) .done⟩
    SequenceDiagram.stackReader.accepts body ∧
      (SequenceDiagram.ofLines ("alt ok" :: (body.lines "end" ++ ["end"]))).map (fun diagram =>
        (diagram.messages.length, diagram.fragments.map Fragment.endIndex)) = .ok (3, [some 2]) ∧
      place.isProper UseCaseDiagram.isPlain UseCaseDiagram.stackReader.isOpening ∧
      (UseCaseDiagram.ofLines ("rectangle \x22Shop\x22 \x7b" ::
          (place.lines "\x7d" ++ ["usecase Ship", "\x7d"]))).useCases =
        [⟨"Pay", "Pay", some "Shop"⟩, ⟨"Ship", "Ship", none⟩] := by
  decide +kernel

end Drafting
