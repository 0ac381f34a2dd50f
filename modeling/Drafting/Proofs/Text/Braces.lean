import Mathlib.Data.List.Basic

/-!
# Braces

An opening brace and the closing brace that belongs to it enclose a text in which braces are
balanced. In a balanced text every opening brace is closed so, and the lines of a source tell
which of them holds the closing one.
-/

namespace Drafting.Text

/-- The number of braces that are open behind a character when some are open before it. A brace
cannot be closed if none is open. -/
def bracesBehind? (count : Nat) (character : Char) : Option Nat :=
  if character = '\x7b' then some (count + 1)
  else if character = '\x7d' then
    match count with
    | 0 => none
    | below + 1 => some below
  else some count

/-- The number of braces that are open behind a text when some are open before it. -/
def bracesOpen? (count : Nat) (text : List Char) : Option Nat := text.foldlM bracesBehind? count

/-- Every brace of a text is closed in it, and none is closed that was not opened. -/
def IsBalanced (text : List Char) : Prop := bracesOpen? 0 text = some 0

/-- Counting decides whether a text is balanced. -/
instance (text : List Char) : Decidable (IsBalanced text) :=
  inferInstanceAs (Decidable (bracesOpen? 0 text = some 0))

/-- An opening brace is open behind itself. -/
theorem bracesBehind?_opening (count : Nat) : bracesBehind? count '\x7b' = some (count + 1) :=
  if_pos rfl

/-- A closing brace closes one that is open. -/
theorem bracesBehind?_closing (below : Nat) : bracesBehind? (below + 1) '\x7d' = some below := rfl

/-- Other characters open and close nothing. -/
theorem bracesBehind?_other {character : Char} (notOpening : character ≠ '\x7b')
    (notClosing : character ≠ '\x7d') (count : Nat) :
    bracesBehind? count character = some count := by
  simp [bracesBehind?, notOpening, notClosing]

/-- Braces are counted from the first character on. -/
theorem bracesOpen?_cons (count : Nat) (character : Char) (rest : List Char) :
    bracesOpen? count (character :: rest) =
      (bracesBehind? count character).bind fun behind => bracesOpen? behind rest := rfl

/-- Behind two texts those braces are open that the second leaves open behind the first. -/
theorem bracesOpen?_append (count : Nat) (text rest : List Char) :
    bracesOpen? count (text ++ rest) =
      (bracesOpen? count text).bind fun behind => bracesOpen? behind rest :=
  List.foldlM_append

/-- Where fewer braces are open behind a text than before it, a brace in the text closes one that
was open before it, and the text before that brace is balanced. -/
theorem exists_closing (below depth : Nat) {after : Nat} {text : List Char}
    (counted : bracesOpen? (below + depth + 1) text = some after) (fewer : after ≤ below) :
    ∃ inner behind, text = inner ++ '\x7d' :: behind ∧ bracesOpen? depth inner = some 0 := by
  -- Braces that are opened in the text come on top of those of `depth`, which are closed before
  -- the one in question, so the induction is for every depth.
  induction text generalizing depth with
  | nil =>
    have same : below + depth + 1 = after := Option.some.inj counted
    omega
  | cons character rest inductionHypothesis =>
    have longer {next : Nat} (step : bracesBehind? depth character = some next)
        (later : ∃ inner behind, rest = inner ++ '\x7d' :: behind ∧
          bracesOpen? next inner = some 0) :
        ∃ inner behind, character :: rest = inner ++ '\x7d' :: behind ∧
          bracesOpen? depth inner = some 0 := by
      obtain ⟨inner, behind, rfl, closed⟩ := later
      refine ⟨character :: inner, behind, rfl, ?_⟩
      rw [bracesOpen?_cons, step, Option.bind_some, closed]
    rw [bracesOpen?_cons] at counted
    by_cases opening : character = '\x7b'
    · subst opening
      exact longer (bracesBehind?_opening depth) (inductionHypothesis _ counted)
    · by_cases closing : character = '\x7d'
      · subst closing
        cases depth with
        | zero => exact ⟨[], rest, rfl, rfl⟩
        | succ depth => exact longer (bracesBehind?_closing depth) (inductionHypothesis _ counted)
      · have step := bracesBehind?_other opening closing
        rw [step] at counted
        exact longer (step depth) (inductionHypothesis _ counted)

/-- A character of some lines put together stands in one of these lines. -/
theorem exists_line {lines : List String} {before after : List Char} {mark : Char}
    (split : lines.flatMap String.toList = before ++ mark :: after) :
    ∃ earlier line later part more, lines = earlier ++ line :: later ∧
      line.toList = part ++ mark :: more ∧ before = earlier.flatMap String.toList ++ part := by
  induction lines generalizing before with
  | nil => simp at split
  | cons first others inductionHypothesis =>
    have inOthers {rest : List Char} (same : before = first.toList ++ rest)
        (restSplit : others.flatMap String.toList = rest ++ mark :: after) :
        ∃ earlier line later part more, first :: others = earlier ++ line :: later ∧
          line.toList = part ++ mark :: more ∧
            before = earlier.flatMap String.toList ++ part := by
      obtain ⟨earlier, line, later, part, more, rfl, characters, rfl⟩ :=
        inductionHypothesis restSplit
      exact ⟨first :: earlier, line, later, part, more, rfl, characters, by simp [same]⟩
    rw [List.flatMap_cons] at split
    rcases List.append_eq_append_iff.mp split with ⟨rest, same, inRest⟩ | ⟨rest, inFirst, inRest⟩
    · exact inOthers same inRest
    · cases rest with
      | nil =>
        have same : before = first.toList ++ [] := by simpa using inFirst.symm
        exact inOthers same inRest.symm
      | cons next more =>
        obtain ⟨rfl, _⟩ := List.cons.inj inRest
        exact ⟨[], first, others, before, more, rfl, inFirst, rfl⟩

end Drafting.Text
