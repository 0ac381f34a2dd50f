import Drafting.Proofs.Split
import Drafting.Proofs.Text.Scan
import Drafting.Text.Case
import Mathlib.Data.List.Forall2

/-!
# Keywords at the beginning of a line

A keyword in any case is read letter by letter. A blank stands for no letter, so where a line
begins with a word and a blank, a keyword that is found there lies within the word: it is the
whole word, or the word goes on behind it and no blank follows the keyword.
-/

namespace Drafting.Text

/-- A keyword is read letter by letter. -/
theorem readLetters_some {letters line written rest : List Char}
    (read : readLetters letters line = some (written, rest)) :
    line = written ++ rest ∧
      List.Forall₂ (fun letter character => sameLetter letter character = true) letters
        written := by
  induction letters generalizing line written with
  | nil =>
    simp only [readLetters, Option.some.injEq, Prod.mk.injEq] at read
    obtain ⟨rfl, rfl⟩ := read
    exact ⟨rfl, .nil⟩
  | cons letter letters inductionHypothesis =>
    cases line with
    | nil => simp [readLetters] at read
    | cons character others =>
      rw [readLetters] at read
      split at read
      · next same =>
        obtain ⟨⟨tail, behind⟩, later, ends⟩ := Option.map_eq_some_iff.mp read
        simp only [Prod.mk.injEq] at ends
        obtain ⟨rfl, rfl⟩ := ends
        obtain ⟨split, letterwise⟩ := inductionHypothesis later
        exact ⟨by rw [split, List.cons_append], .cons same letterwise⟩
      · simp at read

/-- A text is a keyword, written in any case. -/
def IsKeyword (keyword : String) (text : List Char) : Prop :=
  List.Forall₂ (fun letter character => sameLetter letter character = true) keyword.toList text

/-- What is written letter by letter is read, whatever follows it. -/
theorem readLetters_of_letterwise {letters written : List Char}
    (letterwise : List.Forall₂ (fun letter character => sameLetter letter character = true)
      letters written) (rest : List Char) :
    readLetters letters (written ++ rest) = some (written, rest) := by
  induction letterwise with
  | nil => rfl
  | cons same _ inductionHypothesis =>
    rw [List.cons_append, readLetters, if_pos same, inductionHypothesis]
    rfl

/-- A blank stands for no letter but itself. -/
theorem eq_of_sameLetter_blank {letter : Char} (same : sameLetter letter ' ' = true) :
    letter = ' ' := by
  have small : ' '.toLower = ' ' := rfl
  have foreign : (' ' == '\u0130' || ' ' == '\u0131') = false ∧ (' ' == '\u017f') = false ∧
      (' ' == '\u212a') = false := by decide
  rw [sameLetter, small, foreign.1, foreign.2.1, foreign.2.2] at same
  simp only [Bool.and_false, Bool.or_false, beq_iff_eq] at same
  exact same.symm

/-- A keyword without blanks is written without blanks. -/
theorem blank_not_mem {letters written : List Char} (unbroken : ' ' ∉ letters)
    (letterwise : List.Forall₂ (fun letter character => sameLetter letter character = true)
      letters written) : ' ' ∉ written := by
  induction letterwise with
  | nil => simp
  | @cons letter character _ _ same _ inductionHypothesis =>
    rw [List.mem_cons, not_or] at unbroken ⊢
    refine ⟨?_, inductionHypothesis unbroken.2⟩
    rintro rfl
    exact unbroken.1 (eq_of_sameLetter_blank same).symm

/-- What a word and a blank begin with is the whole word, or no blank follows it. -/
theorem Word.behind_prefix (word : Word) {tail first rest : List Char} (unbroken : ' ' ∉ first)
    (split : word.characters ++ ' ' :: tail = first ++ rest) :
    (first = word.characters ∧ rest = ' ' :: tail) ∨
      ∃ character others, rest = character :: others ∧ isBlank character = false := by
  obtain ⟨more, within, rfl⟩ := exists_split_before unbroken split
  cases more with
  | nil => exact .inl ⟨by simp [within], rfl⟩
  | cons character others =>
    have letter : isWord character = true := word.letters character (by simp [within])
    exact .inr ⟨character, others ++ ' ' :: tail, rfl, isBlank_of_isWord letter⟩

/-- A fixed word and a blank are found before a word and a blank exactly if the two words are the
same. -/
theorem Word.expect_blank (word : Word) {fixed : String} (unbroken : ' ' ∉ fixed.toList)
    (tail : List Char) :
    expect (fixed ++ " ") (word.characters ++ ' ' :: tail) =
      if word.text = fixed then some tail else none := by
  by_cases same : word.text = fixed
  · have begins : word.characters ++ ' ' :: tail = (fixed ++ " ").toList ++ tail := by
      rw [← same, String.toList_append, Word.toList_text, List.append_assoc]
      rfl
    rw [if_pos same, begins, expect_append]
  · rw [if_neg same]
    cases found : expect (fixed ++ " ") (word.characters ++ ' ' :: tail) with
    | none => rfl
    | some rest =>
      have split := List.isPrefixOf?_eq_some_iff_append_eq.mp found
      rw [String.toList_append, List.append_assoc] at split
      rcases word.behind_prefix unbroken split.symm with
        ⟨whole, _⟩ | ⟨character, others, behind, visible⟩
      · exact absurd (by rw [Word.text, ← whole, String.ofList_toList]) same
      · obtain ⟨rfl, _⟩ := List.cons.inj behind
        contradiction

/-- Behind a keyword at the beginning of a word blanks follow only if the keyword is the whole
word. -/
theorem Word.behind_keyword (word : Word) {keyword : String} (unbroken : ' ' ∉ keyword.toList)
    {tail written rest : List Char}
    (read : expectAnyCase keyword (word.characters ++ ' ' :: tail) = some (written, rest)) :
    (IsKeyword keyword word.characters ∧ rest = ' ' :: tail) ∨
      ∃ character others, rest = character :: others ∧ isBlank character = false := by
  obtain ⟨split, letterwise⟩ := readLetters_some read
  have keywordUnbroken : ' ' ∉ written := blank_not_mem unbroken letterwise
  rcases word.behind_prefix keywordUnbroken split with ⟨rfl, behind⟩ | goesOn
  · exact .inl ⟨letterwise, behind⟩
  · exact .inr goesOn

end Drafting.Text
