import Drafting.Diagram.Reader
import Drafting.Proofs.SequenceDiagram.Keywords

/-!
# Whether a source can be read

Readers ignore what they do not know, and seven of the eight cannot fail. The reader of
sequence diagrams fails at a keyword that is written with a foreign letter.

The main statement says for every source text whether reading fails and with which error.
It cannot fail on a text without these letters, whatever else the text holds.
-/

namespace Drafting

namespace Text

/-- The pieces of a text hold only characters of the text. -/
theorem mem_of_mem_split {separator character : Char} {text piece : List Char}
    (member : piece ∈ split separator text) (inside : character ∈ piece) : character ∈ text := by
  induction text generalizing piece with
  | nil =>
    obtain rfl : piece = [] := by simpa [split] using member
    simp at inside
  | cons first rest inductionHypothesis =>
    rw [split] at member
    split at member
    · rcases List.mem_cons.mp member with rfl | later
      · simp at inside
      · exact List.mem_cons_of_mem _ (inductionHypothesis later inside)
    · split at member
      · obtain rfl : piece = [first] := by simpa using member
        simp_all
      · next head pieces whole =>
        rw [whole] at inductionHypothesis
        rcases List.mem_cons.mp member with rfl | later
        · rcases List.mem_cons.mp inside with rfl | further
          · exact List.mem_cons_self
          · exact List.mem_cons_of_mem _ (inductionHypothesis List.mem_cons_self further)
        · exact List.mem_cons_of_mem _
            (inductionHypothesis (List.mem_cons_of_mem _ later) inside)

/-- The lines of a text hold only characters of the text. -/
theorem mem_of_mem_normalizedLines {text line : String} {character : Char}
    (member : line ∈ normalizedLines text) (inside : character ∈ line.toList) :
    character ∈ text.toList := by
  simp only [normalizedLines, List.mem_map, List.mem_filter] at member
  obtain ⟨_, ⟨⟨piece, whole, rfl⟩, _⟩, rfl⟩ := member
  rw [String.toList_ofList] at inside
  exact mem_of_mem_split whole ((trim_sublist _).subset inside)

end Text

namespace SequenceDiagram

open Text

/-- The lines of a source that are read as statements: those that are no directives and
stand outside of notes. -/
def statementLines (lines : List String) : List String :=
  outsideNotes false (lines.filter fun line => !isDirective directivesWithHide line)

/-- Reading a sequence diagram fails at the first misspelt keyword among its statements. -/
theorem ofLines_eq_error_iff (lines : List String) (unknown : UnknownWord) :
    ofLines lines = .error unknown ↔
      (statementLines lines).findSome? misspelt? = some unknown := by
  rw [statementLines, ← Progress.readLines_eq_error_iff {}, ofLines]
  cases Progress.readLines {} (lines.filter fun line => !isDirective directivesWithHide line) <;>
    simp [Except.map]

/-- Statements are among the lines. -/
theorem outsideNotes_sublist (active : Bool) (lines : List String) :
    (outsideNotes active lines).Sublist lines := by
  induction lines generalizing active with
  | nil => exact List.Sublist.slnil
  | cons line others inductionHypothesis =>
    rw [outsideNotes]
    split
    · exact (inductionHypothesis true).cons _
    · split
      · exact (inductionHypothesis false).cons _
      · split
        · exact (inductionHypothesis true).cons _
        · exact (inductionHypothesis false).cons_cons _

/-- A misspelt keyword holds a foreign letter, and so does its line. -/
theorem foreign_of_misspelt {line : String} {unknown : UnknownWord}
    (wrong : misspelt? line = some unknown) :
    ∃ character ∈ line.toList, isForeignI character = true := by
  rw [misspelt?] at wrong
  split at wrong
  · next written own =>
    split at wrong
    · next foreign =>
      obtain ⟨character, inside, isForeign⟩ := List.any_eq_true.mp foreign
      rw [keyword?] at own
      split at own
      · obtain ⟨⟨_, rest⟩, begins, rfl⟩ := Option.map_eq_some_iff.mp own
        obtain ⟨keyword, _, spelled⟩ := List.exists_of_findSome?_eq_some begins
        obtain ⟨split, _⟩ := readLetters_some spelled
        exact ⟨character, by rw [split]; exact List.mem_append_left _ inside, isForeign⟩
      · simp at own
    · simp at wrong
  · simp at wrong

end SequenceDiagram

namespace Diagram

open SequenceDiagram Text

/-- Reading a source fails exactly if it is a sequence diagram with a misspelt keyword among
its statements, and the error is about the first of them. -/
theorem ofText_eq_error_iff (text : String) (unknown : UnknownWord) :
    ofText text = .error unknown ↔
      Dialect.ofSource text (normalizedLines text) = .sequence ∧
        (statementLines (normalizedLines text)).findSome? misspelt? = some unknown := by
  rw [← ofLines_eq_error_iff, ofText]
  cases dialect : Dialect.ofSource text (normalizedLines text) with
  | sequence =>
    cases read : SequenceDiagram.ofLines (normalizedLines text) <;>
      simp [ofLines, read, Except.map]
  | _ => simp [ofLines]

/-- A participant whose keyword is written with a dotless `i` cannot be read. -/
theorem ofText_refuses_dotless :
    ¬ ∀ text : String, ∃ diagram, ofText text = .ok diagram := by
  intro total
  obtain ⟨diagram, read⟩ := total "part\u0131cipant A\nA -> B : hi"
  have refused : ofText "part\u0131cipant A\nA -> B : hi" =
      .error ⟨"'part\u0131cipant'", "ParticipantKind"⟩ := by decide +kernel
  rw [refused] at read
  exact absurd read (by simp)

/-- Only the reader of sequence diagrams refuses a text. -/
theorem sequence_refused {text : String} {unknown : UnknownWord}
    (refused : ofText text = .error unknown) :
    SequenceDiagram.ofLines (normalizedLines text) = .error unknown := by
  rw [ofText] at refused
  cases dialect : Dialect.ofSource text (normalizedLines text) with
  | sequence =>
    cases read : SequenceDiagram.ofLines (normalizedLines text) <;>
      simp_all [ofLines, Except.map]
  | _ => simp [dialect, ofLines] at refused

/-- A text without foreign letters is always read. -/
theorem ofText_of_own_letters (text : String)
    (own : ∀ character ∈ text.toList, isForeignI character = false) :
    ∃ diagram, ofText text = .ok diagram := by
  cases read : ofText text with
  | ok diagram => exact ⟨diagram, rfl⟩
  | error unknown =>
    have first := (ofLines_eq_error_iff _ unknown).mp (sequence_refused read)
    obtain ⟨line, member, wrong⟩ := List.exists_of_findSome?_eq_some first
    obtain ⟨character, inside, foreign⟩ := foreign_of_misspelt wrong
    have among := List.mem_of_mem_filter ((outsideNotes_sublist false _).subset member)
    have plain := own character (mem_of_mem_normalizedLines among inside)
    simp [foreign] at plain

end Diagram

end Drafting
