import Drafting.ClassDiagram.Reader
import Drafting.Proofs.Text.Braces
import Drafting.Proofs.Text.Scan

/-!
# Bodies of classes

The body of a class ends with the first line that begins with a closing brace, whatever braces
were opened before. Where a body opens no braces of its own and is closed on a line of its own,
this is the line with the brace that belongs to the one of the declaration.

The main statement is that in a balanced source there is a line with this brace behind every
declaration that opens one, and that it ends the body exactly if it begins with a closing brace
and no line of the body does.
-/

namespace Drafting.ClassDiagram

open Text

/-- The progress after some lines. -/
def afterLines (lines : List String) : Progress := lines.foldl Progress.readLine {}

/-- Further lines are read from where the lines so far have led. -/
theorem afterLines_append (lines further : List String) :
    afterLines (lines ++ further) = further.foldl Progress.readLine (afterLines lines) :=
  List.foldl_append

/-- A body that is open behind a declaration ends with a line: it is open up to this line, and it
is not open behind it. -/
def EndsBody (progress : Progress) (body : List String) (closing : String) : Prop :=
  (∀ part, part <+: body → (part.foldl Progress.readLine progress).opened ≠ none) ∧
    ((body ++ [closing]).foldl Progress.readLine progress).opened = none

/-- Some lines lead to a declaration outside of all bodies, which opens the body of a class and
does not close it. -/
structure Declares (before : List String) (declaration : String) (box : ClassBox)
    (behind : List Char) : Prop where
  atTop : (afterLines before).opened = none
  begins : beginsWithAny declarations declaration.toList = true
  read : ClassBox.ofDeclaration? declaration = some box
  opens : ∃ head, '\x7b' ∉ head ∧ declaration.toList = head ++ '\x7b' :: behind
  unclosed : bracesOpen? 0 behind ≠ none

/-- A line holds the brace that closes the one before a text and some lines: what stands between
the two braces is balanced. -/
def ClosesBehind (behind : List Char) (body : List String) (closing : String) : Prop :=
  ∃ part more, closing.toList = part ++ '\x7d' :: more ∧
    IsBalanced (behind ++ body.flatMap String.toList ++ part)

/-- Declarations are not among the lines that are passed over. -/
theorem not_ignored_of_declaration {line : List Char}
    (begins : beginsWithAny declarations line = true) : beginsWithAny ignored line = false := by
  rw [beginsWithAny, List.any_eq_true] at begins
  obtain ⟨start, member, found⟩ := begins
  obtain ⟨rest, rfl⟩ := (isSome_expect_iff start line).mp found
  simp only [declarations, List.mem_cons, List.not_mem_nil, or_false] at member
  rcases member with rfl | rfl | rfl | rfl <;> rfl

namespace Progress

/-- Outside of all bodies a declaration with a brace opens a body. -/
theorem readLine_declaration {progress : Progress} (atTop : progress.opened = none)
    {declaration : String} (begins : beginsWithAny declarations declaration.toList = true)
    {box : ClassBox} (read : ClassBox.ofDeclaration? declaration = some box)
    (opens : ClassBox.opensBody declaration = true) :
    progress.readLine declaration = { progress with opened := some box } := by
  simp only [readLine, atTop, readTopLine, not_ignored_of_declaration begins, begins, read, opens,
    Bool.false_eq_true, if_false, if_true]

/-- A line within a body ends it exactly if it begins with a closing brace. -/
theorem opened_readLine {progress : Progress} {box : ClassBox} (opened : progress.opened = some box)
    (line : String) :
    (progress.readLine line).opened =
      if ClassBox.closesBody line then none else some (box.addBodyLine line) := by
  simp only [readLine, opened]
  split <;> rfl

/-- Lines of a body that do not end it are added to the class. -/
theorem foldl_body {progress : Progress} {box : ClassBox} (opened : progress.opened = some box)
    {body : List String} (within : ∀ line ∈ body, ClassBox.closesBody line = false) :
    body.foldl readLine progress =
      { progress with opened := some (body.foldl ClassBox.addBodyLine box) } := by
  induction body generalizing progress box with
  | nil => rw [List.foldl_nil, List.foldl_nil, ← opened]
  | cons line others inductionHypothesis =>
    have notClosing := within line List.mem_cons_self
    have next : progress.readLine line =
        { progress with opened := some (box.addBodyLine line) } := by
      simp [readLine, opened, notClosing]
    rw [List.foldl_cons, List.foldl_cons, next]
    exact inductionHypothesis rfl fun other inside => within other (List.mem_cons_of_mem _ inside)

/-- A body ends with the first line that begins with a closing brace. -/
theorem endsBody_iff {progress : Progress} {box : ClassBox} (opened : progress.opened = some box)
    (body : List String) (closing : String) :
    EndsBody progress body closing ↔
      ClassBox.closesBody closing = true ∧ ∀ line ∈ body, ClassBox.closesBody line = false := by
  constructor
  · rintro ⟨inside, ended⟩
    have within : ∀ line ∈ body, ClassBox.closesBody line = false := by
      intro line member
      obtain ⟨part, later, rfl⟩ := List.append_of_mem member
      have before := inside part (List.prefix_append _ _)
      have behind := inside (part ++ [line]) ⟨later, by simp⟩
      obtain ⟨own, ownOpened⟩ := Option.ne_none_iff_exists'.mp before
      rw [List.foldl_append, List.foldl_cons, List.foldl_nil, opened_readLine ownOpened] at behind
      cases closes : ClassBox.closesBody line with
      | false => rfl
      | true => simp [closes] at behind
    refine ⟨?_, within⟩
    rw [List.foldl_append, foldl_body opened within, List.foldl_cons, List.foldl_nil,
      opened_readLine rfl] at ended
    by_contra notClosing
    simp [notClosing] at ended
  · rintro ⟨closes, within⟩
    constructor
    · rintro part ⟨later, rfl⟩
      rw [foldl_body opened fun line member => within line (List.mem_append_left _ member)]
      exact Option.some_ne_none _
    · rw [List.foldl_append, foldl_body opened within, List.foldl_cons, List.foldl_nil,
        opened_readLine rfl, if_pos closes]

/-- Behind the line that ends it, the class stands in the diagram with what the lines of the body
added, and no body is open. -/
theorem foldl_of_endsBody {progress : Progress} {box : ClassBox}
    (opened : progress.opened = some box) {body : List String} {closing : String}
    (ends : EndsBody progress body closing) :
    (body ++ [closing]).foldl readLine progress =
      { diagram := progress.diagram.addClass (body.foldl ClassBox.addBodyLine box) } := by
  obtain ⟨closes, within⟩ := (endsBody_iff opened body closing).mp ends
  rw [List.foldl_append, foldl_body opened within, List.foldl_cons, List.foldl_nil, readLine]
  simp only [closes, if_true]

/-- No class is taken away or changed by a line outside of all bodies. -/
theorem classes_prefix_readTopLine (progress : Progress) (line : String) :
    progress.diagram.classes <+: (progress.readTopLine line).diagram.classes := by
  simp only [readTopLine]
  split
  · exact List.prefix_rfl
  · split
    · split
      · split
        · exact List.prefix_rfl
        · exact List.prefix_append _ _
      · exact List.prefix_rfl
    · split <;> split <;> exact List.prefix_rfl

/-- No class is taken away or changed by a line. -/
theorem classes_prefix_readLine (progress : Progress) (line : String) :
    progress.diagram.classes <+: (progress.readLine line).diagram.classes := by
  rw [readLine]
  split
  · exact classes_prefix_readTopLine progress line
  · split
    · exact List.prefix_append _ _
    · exact List.prefix_rfl

/-- So it is with any lines, up to the end of the source. -/
theorem classes_prefix_finish (progress : Progress) (lines : List String) :
    progress.diagram.classes <+: (lines.foldl readLine progress).finish.classes := by
  induction lines generalizing progress with
  | nil =>
    rw [List.foldl_nil, finish]
    split
    · exact List.prefix_rfl
    · exact List.prefix_append _ _
  | cons line others inductionHypothesis =>
    exact (classes_prefix_readLine progress line).trans (inductionHypothesis _)

end Progress

/-- Behind a declaration that opens a body and does not close it, a balanced source has a line
with the brace that does. -/
theorem Declares.exists_closing_line {before rest : List String} {declaration : String}
    {box : ClassBox} {behind : List Char} (declared : Declares before declaration box behind)
    (balanced : IsBalanced ((before ++ declaration :: rest).flatMap String.toList)) :
    ∃ body closing after, rest = body ++ closing :: after ∧ ClosesBehind behind body closing := by
  obtain ⟨head, _, characters⟩ := declared.opens
  have whole : (before ++ declaration :: rest).flatMap String.toList =
      (before.flatMap String.toList ++ head) ++
        '\x7b' :: (behind ++ rest.flatMap String.toList) := by
    simp [characters]
  rw [IsBalanced, whole, bracesOpen?_append, Option.bind_eq_some_iff] at balanced
  obtain ⟨below, _, opened⟩ := balanced
  obtain ⟨inner, after, split, closed⟩ := exists_closing below 0 opened (Nat.zero_le below)
  -- The brace is not one of the declaration, which would then be closed in its own line.
  obtain ⟨between, rfl, later⟩ : ∃ between, inner = behind ++ between ∧
      rest.flatMap String.toList = between ++ '\x7d' :: after := by
    rcases List.append_eq_append_iff.mp split with ⟨between, same, later⟩ | ⟨more, own, later⟩
    · exact ⟨between, same, later⟩
    · cases more with
      | nil => exact ⟨[], by simpa using own.symm, later.symm⟩
      | cons next others =>
        obtain ⟨rfl, _⟩ := List.cons.inj later
        refine absurd ?_ declared.unclosed
        rw [own, bracesOpen?_append, closed]
        rfl
  obtain ⟨body, closing, further, part, more, rfl, line, rfl⟩ := exists_line later
  refine ⟨body, closing, further, rfl, part, more, line, ?_⟩
  rw [IsBalanced, List.append_assoc]
  exact closed

/-- After the declaration the body is open. -/
theorem Declares.afterLines_declaration {before : List String} {declaration : String}
    {box : ClassBox} {behind : List Char} (declared : Declares before declaration box behind) :
    afterLines (before ++ [declaration]) = { afterLines before with opened := some box } := by
  obtain ⟨head, _, characters⟩ := declared.opens
  have opens : ClassBox.opensBody declaration = true := by
    rw [ClassBox.opensBody, characters, List.contains_iff_mem]
    simp
  rw [afterLines_append, List.foldl_cons, List.foldl_nil,
    Progress.readLine_declaration declared.atTop declared.begins declared.read opens]

/-- In a balanced source let a declaration outside of all bodies open a body and not close it.
Then one of the later lines holds the brace that does. Any later line ends the body exactly if
it is the first of them that begins with a closing brace; the class then has the members of the
lines before and keeps them to the end of the source, and what follows is read outside of all
bodies. -/
theorem body_ends_iff {before rest : List String} {declaration : String} {box : ClassBox}
    {behind : List Char} (declared : Declares before declaration box behind)
    (balanced : IsBalanced ((before ++ declaration :: rest).flatMap String.toList)) :
    (∃ body closing after, rest = body ++ closing :: after ∧ ClosesBehind behind body closing) ∧
    ∀ body closing after, rest = body ++ closing :: after →
      (EndsBody (afterLines (before ++ [declaration])) body closing ↔
        ClassBox.closesBody closing = true ∧ ∀ line ∈ body, ClassBox.closesBody line = false) ∧
      (EndsBody (afterLines (before ++ [declaration])) body closing →
        let own := body.foldl ClassBox.addBodyLine box
        afterLines (before ++ declaration :: (body ++ [closing])) =
            { diagram := (afterLines before).diagram.addClass own } ∧
          (afterLines before).diagram.classes ++ [own] <+:
            (ofLines (before ++ declaration :: rest)).classes) := by
  refine ⟨declared.exists_closing_line balanced, ?_⟩
  rintro body closing after rfl
  have opened := declared.afterLines_declaration
  have isOpen : (afterLines (before ++ [declaration])).opened = some box := by rw [opened]
  refine ⟨Progress.endsBody_iff isOpen body closing, ?_⟩
  intro ends own
  have read : afterLines (before ++ declaration :: (body ++ [closing])) =
      { diagram := (afterLines before).diagram.addClass own } := by
    have regrouped : before ++ declaration :: (body ++ [closing]) =
        (before ++ [declaration]) ++ (body ++ [closing]) := by
      simp
    rw [regrouped, afterLines_append, Progress.foldl_of_endsBody isOpen ends, opened]
  refine ⟨read, ?_⟩
  have whole : before ++ declaration :: (body ++ closing :: after) =
      (before ++ declaration :: (body ++ [closing])) ++ after := by
    simp
  rw [ofLines, ← afterLines, whole, afterLines_append, read]
  exact Progress.classes_prefix_finish { diagram := (afterLines before).diagram.addClass own } after

/-- The body of a class may be followed by another declaration. -/
theorem body_ends_iff_two_classes :
    let declaration := "class A \x7b"
    let rest := ["+ x : int", "\x7d", "class B"]
    Declares [] declaration { name := "A" } [] ∧
      IsBalanced ((declaration :: rest).flatMap String.toList) ∧
      ClosesBehind [] ["+ x : int"] "\x7d" ∧
      EndsBody (afterLines [declaration]) ["+ x : int"] "\x7d" ∧
      ofLines (declaration :: rest) =
        { classes := [{ name := "A", attributes := [{ name := "x", type := "int" }] },
            { name := "B" }] } := by
  intro declaration rest
  have declared : Declares [] declaration { name := "A" } [] :=
    ⟨rfl, by decide, by decide, ⟨"class A ".toList, by decide, by decide⟩, by decide⟩
  have balanced : IsBalanced (([] ++ declaration :: rest).flatMap String.toList) := by decide
  obtain ⟨_, ends⟩ := body_ends_iff declared balanced
  obtain ⟨iff, _⟩ := ends ["+ x : int"] "\x7d" ["class B"] rfl
  have closed : ClosesBehind [] ["+ x : int"] "\x7d" := ⟨[], [], by decide, by decide⟩
  exact ⟨declared, balanced, closed, iff.mpr (by decide), by decide +kernel⟩

/-- A block within a body ends the body where the block is closed, and a member behind it is
lost. -/
theorem nested_block_ends_body :
    let declaration := "class A \x7b"
    let body := ["+ run() \x7b", "\x7d", "+ x : int"]
    IsBalanced ((declaration :: (body ++ ["\x7d"])).flatMap String.toList) ∧
      Declares [] declaration { name := "A" } [] ∧
      ClosesBehind [] body "\x7d" ∧
      ¬ EndsBody (afterLines [declaration]) body "\x7d" ∧
      ofLines (declaration :: (body ++ ["\x7d"])) =
        { classes :=
            [{ name := "A", methods := [{ name := "run() \x7b", isMethod := true }] }] } := by
  intro declaration body
  have declared : Declares [] declaration { name := "A" } [] :=
    ⟨rfl, by decide, by decide, ⟨"class A ".toList, by decide, by decide⟩, by decide⟩
  have early : ¬ EndsBody (afterLines [declaration]) body "\x7d" := by
    rintro ⟨inside, _⟩
    exact inside ["+ run() \x7b", "\x7d"] ⟨["+ x : int"], rfl⟩ (by decide +kernel)
  exact ⟨by decide, declared, ⟨[], [], by decide, by decide⟩, early, by decide +kernel⟩

end Drafting.ClassDiagram
