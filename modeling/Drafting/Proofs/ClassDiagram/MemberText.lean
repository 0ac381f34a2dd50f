import Mathlib.Data.List.TakeWhile
import Drafting.Proofs.ClassDiagram.Recovery

/-!
# Text of members

A member is shown by its sign and what was written behind it. Blanks and colons may be placed
otherwise than in the line: they stand between the sign, the name and the type. The type ends
at the second colon, and what stands behind that is not shown.

The main statement is that no other character of a member line is lost, moved or added exactly
if nothing but blanks and colons stands behind the second colon.
-/

namespace Drafting

open Text

namespace Text

/-- A text without its blanks. -/
def withoutBlanks (text : List Char) : List Char := text.filter fun character => !isBlank character

/-- The first character is left out if it is blank. -/
theorem withoutBlanks_cons (first : Char) (rest : List Char) :
    withoutBlanks (first :: rest) =
      if isBlank first then withoutBlanks rest else first :: withoutBlanks rest := by
  cases blank : isBlank first <;> simp [withoutBlanks, blank]

/-- Cutting blanks from the end changes nothing else. -/
theorem withoutBlanks_dropTrailingBlanks (text : List Char) :
    withoutBlanks (dropTrailingBlanks text) = withoutBlanks text := by
  induction text with
  | nil => rfl
  | cons first rest inductionHypothesis =>
    rw [withoutBlanks_cons, ← inductionHypothesis, dropTrailingBlanks]
    cases dropTrailingBlanks rest with
    | nil => cases blank : isBlank first <;> simp [withoutBlanks, blank]
    | cons next others => rw [withoutBlanks_cons]

/-- Skipping leading blanks changes nothing else. -/
theorem withoutBlanks_dropBlanks (text : List Char) :
    withoutBlanks (dropBlanks text) = withoutBlanks text := by
  induction text with
  | nil => rfl
  | cons first rest inductionHypothesis =>
    by_cases blank : isBlank first = true
    · rw [dropBlanks, List.dropWhile_cons_of_pos blank, ← dropBlanks, inductionHypothesis,
        withoutBlanks_cons, if_pos blank]
    · rw [dropBlanks_cons_of_not_blank rest (Bool.eq_false_iff.mpr blank)]

/-- Trimming changes nothing but blanks. -/
theorem withoutBlanks_trim (text : List Char) : withoutBlanks (trim text) = withoutBlanks text := by
  rw [trim, withoutBlanks_dropTrailingBlanks, withoutBlanks_dropBlanks]

end Text

namespace ClassMember

/-- The characters that count: all but blanks and colons. -/
def isText (character : Char) : Bool := !isBlank character && character != ':'

/-- The characters of a text that count. -/
def kept (text : List Char) : List Char := text.filter isText

/-- What stands before the first colon, or all if there is none. -/
def beforeColon (text : List Char) : List Char := text.takeWhile (· != ':')

/-- What stands behind the first colon. -/
def afterColon (text : List Char) : List Char := (text.dropWhile (· != ':')).drop 1

/-- A colon ends what stands before it. -/
theorem beforeColon_cons (character : Char) (rest : List Char) :
    beforeColon (character :: rest) =
      if character = ':' then [] else character :: beforeColon rest := by
  by_cases colon : character = ':' <;> simp [beforeColon, colon]

/-- What stands behind a colon begins there. -/
theorem afterColon_cons (character : Char) (rest : List Char) :
    afterColon (character :: rest) = if character = ':' then rest else afterColon rest := by
  by_cases colon : character = ':' <;> simp [afterColon, colon]

/-- Blanks count for nothing. -/
theorem kept_withoutBlanks (text : List Char) : kept (withoutBlanks text) = kept text := by
  rw [kept, withoutBlanks, List.filter_filter]
  congr 1
  funext character
  cases blank : isBlank character <;> simp [isText, blank]

/-- Trimming loses nothing that counts. -/
theorem kept_trim (text : List Char) : kept (trim text) = kept text := by
  rw [← kept_withoutBlanks, withoutBlanks_trim, kept_withoutBlanks]

/-- What counts stands before the first colon or behind it. -/
theorem kept_eq (text : List Char) :
    kept text = kept (beforeColon text) ++ kept (afterColon text) := by
  induction text with
  | nil => rfl
  | cons character rest inductionHypothesis =>
    rw [beforeColon_cons, afterColon_cons]
    by_cases colon : character = ':'
    · subst colon
      rfl
    · rw [if_neg colon, if_neg colon, kept, kept, List.filter_cons, List.filter_cons, ← kept,
        ← kept, inductionHypothesis]
      split <;> rfl

/-- The first colon stays where it is without blanks. -/
theorem withoutBlanks_parts (text : List Char) :
    withoutBlanks (beforeColon text) = beforeColon (withoutBlanks text) ∧
      withoutBlanks (afterColon text) = afterColon (withoutBlanks text) := by
  have colonVisible : isBlank ':' = false := by decide
  induction text with
  | nil => exact ⟨rfl, rfl⟩
  | cons character rest inductionHypothesis =>
    rw [beforeColon_cons, afterColon_cons, withoutBlanks_cons]
    by_cases colon : character = ':'
    · simp [colon, colonVisible, beforeColon_cons, afterColon_cons, withoutBlanks]
    · rw [if_neg colon, if_neg colon, withoutBlanks_cons]
      by_cases blank : isBlank character = true
      · rw [if_pos blank, if_pos blank]
        exact inductionHypothesis
      · rw [if_neg blank, if_neg blank, beforeColon_cons, afterColon_cons, if_neg colon,
          if_neg colon, inductionHypothesis.1, inductionHypothesis.2]
        exact ⟨rfl, rfl⟩

/-- Trimming changes nothing that counts before the first colon or behind it. -/
theorem kept_parts_trim (text : List Char) :
    kept (beforeColon (trim text)) = kept (beforeColon text) ∧
      kept (beforeColon (afterColon (trim text))) = kept (beforeColon (afterColon text)) := by
  constructor
  · rw [← kept_withoutBlanks, (withoutBlanks_parts _).1, withoutBlanks_trim,
      ← (withoutBlanks_parts _).1, kept_withoutBlanks]
  · rw [← kept_withoutBlanks, (withoutBlanks_parts _).1, (withoutBlanks_parts _).2,
      withoutBlanks_trim, ← (withoutBlanks_parts _).2, ← (withoutBlanks_parts _).1,
      kept_withoutBlanks]

/-- The first piece of a text ends at the first colon, and the others are those behind it. -/
theorem split_colon (text : List Char) :
    split ':' text =
      beforeColon text :: if ':' ∈ text then split ':' (afterColon text) else [] := by
  induction text with
  | nil => rfl
  | cons character rest inductionHypothesis =>
    rw [split, beforeColon_cons, afterColon_cons]
    by_cases colon : character = ':'
    · simp [colon]
    · have other : ':' ≠ character := Ne.symm colon
      rw [if_neg colon, if_neg colon, inductionHypothesis]
      simp [colon, other]

/-- The name and the type hold what counts before the second colon. -/
theorem kept_splitType (text : List Char) :
    kept (splitType text).1 ++ kept (splitType text).2 =
      kept (beforeColon text) ++ kept (beforeColon (afterColon text)) := by
  rw [splitType, split_colon]
  by_cases colon : ':' ∈ text
  · rw [if_pos colon, split_colon]
    simp only [kept_trim]
  · have all : beforeColon text = text := List.takeWhile_eq_self_iff.mpr (bne_of_not_mem colon)
    have nothing : afterColon text = [] := by
      rw [afterColon, List.dropWhile_eq_nil_iff.mpr (bne_of_not_mem colon), List.drop_nil]
    rw [if_neg colon, all, nothing]
    rfl

/-- A sign counts, and the blank behind it does not. -/
theorem kept_sign {sign : Char} (isSign : isVisibility sign = true) (content : List Char) :
    kept (sign :: ' ' :: content) = sign :: kept content := by
  have counts : isText sign = true := by
    rcases sign_cases isSign with rfl | rfl | rfl | rfl <;> decide
  have blank : isText ' ' = false := by decide
  rw [kept, List.filter_cons_of_pos counts, List.filter_cons_of_neg (by simp [blank]), kept]

/-- What counts in the content of a member stands in its name and its type. -/
theorem kept_content (member : ClassMember) :
    kept member.content = kept member.name.toList ++ kept member.type.toList := by
  rw [content, kept, List.filter_append]
  congr 1
  split
  · next untyped =>
    have empty : member.type.toList = [] := by simpa using untyped
    rw [empty]
    rfl
  · have colon : ": ".toList.filter isText = [] := by decide
    rw [List.filter_append, colon, List.nil_append, kept]

/-- A member line: perhaps a sign, and a text, which does not begin with a sign if there is none
before it. -/
structure Written where
  sign : Option Char
  text : List Char
  isSign : ∀ character ∈ sign, isVisibility character = true
  unsigned : sign = none → ∀ first ∈ text.head?, isVisibility first = false

namespace Written

/-- The line itself. -/
def line (written : Written) : String := String.ofList (written.sign.toList ++ written.text)

/-- The sign that is shown. Members without a sign are public. -/
def shownSign (written : Written) : Char := written.sign.getD '+'

/-- Every line is written so. -/
theorem exists_of_line (line : String) : ∃ written : Written, written.line = line := by
  suffices signed : ∃ written : Written,
      written.sign.toList ++ written.text = line.toList by
    obtain ⟨written, same⟩ := signed
    exact ⟨written, by rw [Written.line, same, String.ofList_toList]⟩
  cases line.toList with
  | nil => exact ⟨⟨none, [], by simp, by simp⟩, rfl⟩
  | cons first rest =>
    by_cases sign : isVisibility first = true
    · exact ⟨⟨some first, rest, by simp [sign], by simp⟩, rfl⟩
    · exact ⟨⟨none, first :: rest, by simp, by simpa using sign⟩, rfl⟩

/-- The shown sign is one of the signs of visibility. -/
theorem isVisibility_shownSign (written : Written) : isVisibility written.shownSign = true := by
  obtain ⟨sign, text, isSign, unsigned⟩ := written
  cases sign with
  | none => exact (by decide : isVisibility '+' = true)
  | some sign => exact isSign sign rfl

/-- The line is taken apart as it was written. -/
theorem splitVisibility_line (written : Written) :
    splitVisibility written.line.toList = (written.shownSign, written.text) := by
  obtain ⟨sign, text, isSign, unsigned⟩ := written
  rw [line, String.toList_ofList]
  cases sign with
  | some sign => exact if_pos (isSign sign rfl)
  | none =>
    cases text with
    | nil => rfl
    | cons first rest =>
      have notSign : isVisibility first = false := unsigned rfl first rfl
      exact if_neg (by simp [notSign])

/-- What counts in the line that is shown is the sign and what counts before the second colon. -/
theorem kept_display (written : Written) :
    kept (ofLine written.line).display.toList =
      written.shownSign ::
        (kept (beforeColon written.text) ++ kept (beforeColon (afterColon written.text))) := by
  have shown : (ofLine written.line).visibility = String.singleton written.shownSign := by
    rw [ofLine, splitVisibility_line]
  have name : (ofLine written.line).name.toList = (splitType (trim written.text)).1 := by
    rw [ofLine, splitVisibility_line, String.toList_ofList]
  have type : (ofLine written.line).type.toList = (splitType (trim written.text)).2 := by
    rw [ofLine, splitVisibility_line, String.toList_ofList]
  have parts := kept_parts_trim written.text
  rw [toList_display shown, kept_sign written.isVisibility_shownSign, kept_content, name, type,
    kept_splitType, parts.1, parts.2]

end Written

/-- A member line is shown without loss exactly if nothing that counts stands behind its second
colon: apart from blanks and colons, the shown line is the sign and what stands behind it in
the line. -/
theorem display_keeps_text_iff (line : String) :
    ∃ written : Written, written.line = line ∧
      (kept (ofLine line).display.toList = written.shownSign :: kept written.text ↔
        kept (afterColon (afterColon written.text)) = []) := by
  obtain ⟨written, rfl⟩ := Written.exists_of_line line
  refine ⟨written, rfl, ?_⟩
  rw [written.kept_display, kept_eq written.text, kept_eq (afterColon written.text),
    ← List.append_assoc, List.cons.injEq, List.self_eq_append_right]
  exact and_iff_right rfl

/-- A typed parameter brings a colon of its own, so the type of the result is lost. -/
theorem display_typed_parameter :
    (ofLine "+ find(id: int): User").display = "+ find(id: int)" ∧
      kept "+ find(id: int)".toList ≠ '+' :: kept " find(id: int): User".toList := by
  decide +kernel

end ClassMember

end Drafting
