import Drafting.Proofs.Text.Word
import Drafting.Text.Lines

/-!
# Pieces and lines put together

A text is split at a separator into the pieces that do not hold it, and pieces put together
are split into the same pieces again. So a source made of trimmed lines, none of which is
empty or a comment, has these lines when it is normalized.
-/

namespace Drafting.Text

/-- A text without the separator is one piece. -/
theorem split_of_not_mem {separator : Char} {text : List Char} (absent : separator ∉ text) :
    split separator text = [text] := by
  induction text with
  | nil => rfl
  | cons character rest inductionHypothesis =>
    have other : character ≠ separator := fun same => absent (by simp [same])
    have tail := inductionHypothesis fun member => absent (List.mem_cons_of_mem _ member)
    simp [split, other, tail]

/-- The first piece ends at the first separator. -/
theorem split_append {separator : Char} {piece : List Char} (absent : separator ∉ piece)
    (rest : List Char) :
    split separator (piece ++ separator :: rest) = piece :: split separator rest := by
  induction piece with
  | nil => simp [split]
  | cons character others inductionHypothesis =>
    have other : character ≠ separator := fun same => absent (by simp [same])
    have tail := inductionHypothesis fun member => absent (List.mem_cons_of_mem _ member)
    simp [split, other, tail]

/-- Pieces without the separator are found again when they were put together. -/
theorem split_join {separator : Char} {pieces : List (List Char)} (nonempty : pieces ≠ [])
    (absent : ∀ piece ∈ pieces, separator ∉ piece) :
    split separator (join [separator] pieces) = pieces := by
  induction pieces with
  | nil => contradiction
  | cons piece others inductionHypothesis =>
    have here := absent piece (by simp)
    cases others with
    | nil => exact split_of_not_mem here
    | cons next further =>
      have later := inductionHypothesis (by simp) fun other member =>
        absent other (List.mem_cons_of_mem _ member)
      rw [join, List.append_assoc, List.singleton_append, split_append here, later]
      simp

/-- No piece holds the separator. -/
theorem not_mem_of_mem_split {separator : Char} {text piece : List Char}
    (member : piece ∈ split separator text) : separator ∉ piece := by
  induction text generalizing piece with
  | nil =>
    obtain rfl : piece = [] := by simpa [split] using member
    exact List.not_mem_nil
  | cons character rest inductionHypothesis =>
    rw [split] at member
    split at member
    · rcases List.mem_cons.mp member with rfl | later
      · exact List.not_mem_nil
      · exact inductionHypothesis later
    · next different =>
      have other : separator ≠ character := fun same => different (by simp [same])
      split at member
      · obtain rfl : piece = [character] := by simpa using member
        simpa using other
      · next head pieces whole =>
        rw [whole] at inductionHypothesis
        rcases List.mem_cons.mp member with rfl | later
        · have absent := inductionHypothesis List.mem_cons_self
          simp [other, absent]
        · exact inductionHypothesis (List.mem_cons_of_mem _ later)

/-- A trimmed text that is not empty ends in a visible character. -/
theorem exists_last_of_trim {text : List Char} (nonempty : text ≠ []) (trimmed : trim text = text) :
    ∃ before last, text = before ++ [last] ∧ isBlank last = false := by
  rcases List.eq_nil_or_concat text with rfl | ⟨before, last, rfl⟩
  · contradiction
  · rw [List.concat_eq_append] at trimmed ⊢
    rw [trim] at trimmed
    exact ⟨before, last, rfl, dropTrailingBlanks_ends_visible _ before last trimmed⟩

/-- What begins with a visible character and ends in a trimmed text is trimmed. -/
theorem trim_cons_append {first : Char} (visible : isBlank first = false) (middle : List Char)
    {text : List Char} (nonempty : text ≠ []) (trimmed : trim text = text) :
    trim (first :: (middle ++ text)) = first :: (middle ++ text) := by
  obtain ⟨before, last, rfl, lastVisible⟩ := exists_last_of_trim nonempty trimmed
  have whole : first :: (middle ++ (before ++ [last])) =
      (first :: (middle ++ before)) ++ [last] := by
    simp
  rw [trim, dropBlanks_cons_of_not_blank _ visible, whole,
    dropTrailingBlanks_append_of_not_blank _ lastVisible]

/-- A blank before a text is cut off. -/
theorem trim_cons_of_blank {blank : Char} (isBlank : isBlank blank = true) (text : List Char) :
    trim (blank :: text) = trim text := by
  rw [trim, trim, dropBlanks, List.dropWhile_cons_of_pos isBlank, dropBlanks]

/-- A line as it may stand in a normalized source. -/
structure IsNormalLine (line : String) : Prop where
  trimmed : trim line.toList = line.toList
  noLineFeed : '\n' ∉ line.toList
  content : carriesContent line.toList = true

/-- The lines of a source that is put together from normal lines are these lines. -/
theorem normalizedLines_joinStrings {lines : List String}
    (normal : ∀ line ∈ lines, IsNormalLine line) :
    normalizedLines (joinStrings "\n" lines) = lines := by
  by_cases nonempty : lines = []
  · subst nonempty
    rfl
  · have pieces : split '\n' (joinStrings "\n" lines).toList = lines.map String.toList := by
      rw [joinStrings, String.toList_ofList]
      refine split_join (by simpa using nonempty) ?_
      intro _ member
      obtain ⟨line, inside, rfl⟩ := List.mem_map.mp member
      exact (normal line inside).noLineFeed
    have trimmed : (lines.map String.toList).map trim = lines.map String.toList := by
      rw [List.map_map]
      exact List.map_congr_left fun line member => (normal line member).trimmed
    have kept : (lines.map String.toList).filter carriesContent = lines.map String.toList := by
      refine List.filter_eq_self.mpr ?_
      intro _ member
      obtain ⟨line, inside, rfl⟩ := List.mem_map.mp member
      exact (normal line inside).content
    rw [normalizedLines, pieces, trimmed, kept, List.map_map]
    simp

end Drafting.Text
