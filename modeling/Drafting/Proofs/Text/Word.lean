import Drafting.Text.Blank
import Drafting.Text.Word

/-!
# Words

A word is a nonempty text of letters, digits and underscores. It holds no mark of any
dialect and no blank, so trimming leaves it as it is.
-/

namespace Drafting.Text

/-- The code points of blanks. -/
def blankCodes : List Nat :=
  [9, 10, 11, 12, 13, 28, 29, 30, 31, 32, 0x85, 0xA0, 0x1680, 0x2000, 0x2001, 0x2002, 0x2003,
    0x2004, 0x2005, 0x2006, 0x2007, 0x2008, 0x2009, 0x200A, 0x2028, 0x2029, 0x202F, 0x205F, 0x3000]

/-- A blank has one of these code points. -/
theorem mem_blankCodes {character : Char} (blank : isBlank character = true) :
    character.toNat ∈ blankCodes := by
  simp only [isBlank, Bool.or_eq_true, Bool.and_eq_true, decide_eq_true_eq, beq_iff_eq] at blank
  simp only [blankCodes, List.mem_cons, List.not_mem_nil, or_false]
  omega

/-- The character of each of these code points is no word character. -/
theorem not_word_of_blankCodes : ∀ code ∈ blankCodes, isWord (Char.ofNat code) = false := by
  decide +kernel

/-- Word characters are no blanks. -/
theorem isBlank_of_isWord {character : Char} (word : isWord character = true) :
    isBlank character = false := by
  cases blank : isBlank character with
  | false => rfl
  | true =>
    have notWord := not_word_of_blankCodes character.toNat (mem_blankCodes blank)
    rw [Char.ofNat_toNat] at notWord
    simp [notWord] at word

/-- Cutting blanks from the end of a text without blanks leaves the text. -/
theorem dropTrailingBlanks_of_no_blank {text : List Char}
    (visible : ∀ character ∈ text, isBlank character = false) :
    dropTrailingBlanks text = text := by
  rcases List.eq_nil_or_concat text with rfl | ⟨before, last, rfl⟩
  · rfl
  · rw [List.concat_eq_append] at visible ⊢
    exact dropTrailingBlanks_append_of_not_blank before (visible last (by simp))

/-- A blank at the end of a text is cut off with those before it. -/
theorem dropTrailingBlanks_append_of_blank (text : List Char) {blank : Char}
    (isBlank : isBlank blank = true) :
    dropTrailingBlanks (text ++ [blank]) = dropTrailingBlanks text := by
  induction text with
  | nil => simp [dropTrailingBlanks, isBlank]
  | cons character rest inductionHypothesis =>
    rw [List.cons_append, dropTrailingBlanks, inductionHypothesis, dropTrailingBlanks]

/-- Trimming leaves a text without blanks as it is. -/
theorem trim_of_no_blank {text : List Char}
    (visible : ∀ character ∈ text, isBlank character = false) : trim text = text := by
  have kept : dropBlanks text = text := by
    cases text with
    | nil => rfl
    | cons first rest => exact dropBlanks_cons_of_not_blank rest (visible first (by simp))
  rw [trim, kept, dropTrailingBlanks_of_no_blank visible]

/-- A visible first character remains after trimming. -/
theorem head?_trim_cons {first : Char} (visible : isBlank first = false) (rest : List Char) :
    (trim (first :: rest)).head? = some first := by
  rw [trim, dropBlanks_cons_of_not_blank rest visible, dropTrailingBlanks]
  cases dropTrailingBlanks rest with
  | nil => simp [visible]
  | cons => rfl

/-- Cutting blanks from the end only leaves characters out. -/
theorem dropTrailingBlanks_sublist (text : List Char) :
    (dropTrailingBlanks text).Sublist text := by
  induction text with
  | nil => exact List.Sublist.slnil
  | cons character rest inductionHypothesis =>
    rw [dropTrailingBlanks]
    split
    · split
      · exact List.nil_sublist _
      · exact (List.nil_sublist _).cons_cons _
    · exact inductionHypothesis.cons_cons _

/-- Cutting blanks from the end leaves the visible characters. -/
theorem mem_dropTrailingBlanks {text : List Char} {mark : Char} (member : mark ∈ text)
    (visible : isBlank mark = false) : mark ∈ dropTrailingBlanks text := by
  induction text with
  | nil => contradiction
  | cons character rest inductionHypothesis =>
    rw [dropTrailingBlanks]
    rcases List.mem_cons.mp member with rfl | later
    · split
      · simp [visible]
      · exact List.mem_cons_self
    · have kept := inductionHypothesis later
      split
      · next nothing =>
        rw [nothing] at kept
        contradiction
      · exact List.mem_cons_of_mem _ kept

/-- Trimming leaves the visible characters. -/
theorem mem_trim {text : List Char} {mark : Char} (member : mark ∈ text)
    (visible : isBlank mark = false) : mark ∈ trim text := by
  refine mem_dropTrailingBlanks ?_ visible
  rw [← List.takeWhile_append_dropWhile (p := isBlank) (l := text)] at member
  rcases List.mem_append.mp member with blank | behind
  · have isBlank := List.all_eq_true.mp List.all_takeWhile mark blank
    simp [visible] at isBlank
  · exact behind

/-- Trimming only leaves characters out. -/
theorem trim_sublist (text : List Char) : (trim text).Sublist text :=
  (dropTrailingBlanks_sublist _).trans (List.dropWhile_sublist _)

/-- A text that trimming leaves as it is begins with a visible character. -/
theorem isBlank_of_trim_cons {first : Char} {rest : List Char}
    (trimmed : trim (first :: rest) = first :: rest) : isBlank first = false := by
  by_cases blank : isBlank first = true
  · have shorter : (trim (first :: rest)).length ≤ rest.length := by
      rw [trim, dropBlanks, List.dropWhile_cons_of_pos blank]
      exact ((dropTrailingBlanks_sublist _).trans (List.dropWhile_sublist _)).length_le
    rw [trimmed, List.length_cons] at shorter
    omega
  · exact Bool.eq_false_iff.mpr blank

/-- A word, which has only word characters. -/
structure Word where
  characters : List Char
  nonempty : characters ≠ []
  letters : ∀ character ∈ characters, isWord character = true

namespace Word

/-- The word that a string of word characters is. -/
def ofString (text : String) (nonempty : text.toList ≠ [])
    (letters : text.toList.all isWord = true) : Word :=
  ⟨text.toList, nonempty, List.all_eq_true.mp letters⟩

/-- A word as a string. -/
def text (word : Word) : String := String.ofList word.characters

/-- The characters of a word as a string. -/
theorem toList_text (word : Word) : word.text.toList = word.characters := String.toList_ofList

/-- A character that belongs to no word does not occur in one. -/
theorem not_mem (word : Word) {mark : Char} (foreign : isWord mark = false) :
    mark ∉ word.characters := by
  intro member
  have letter := word.letters mark member
  simp [foreign] at letter

/-- A character of a word is none that belongs to no word. -/
theorem ne_of_mem (word : Word) {mark character : Char} (foreign : isWord mark = false)
    (member : character ∈ word.characters) : character ≠ mark := by
  rintro rfl
  exact word.not_mem foreign member

/-- Trimming leaves a word as it is. -/
theorem trim_characters (word : Word) : trim word.characters = word.characters :=
  trim_of_no_blank fun character member => isBlank_of_isWord (word.letters character member)

end Word

end Drafting.Text
